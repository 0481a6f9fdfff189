import ApiModel.Document.Parameter
import ApiModel.Document.Security

/-!
# Operations

An operation is what one HTTP method does at one path: its parameters, its request body and its
responses.  The operations of a path are kept in the fixed order of `Method.all`.
-/

namespace ApiModel

/-- An HTTP method that a path may declare. -/
inductive Method where
  | get
  | put
  | post
  | delete
  | options
  | head
  | patch
  | trace
  deriving DecidableEq, Repr, Inhabited

namespace Method

/-- The methods in the order in which operations are listed. -/
def all : List Method :=
  [get, put, post, delete, options, head, patch, trace]

/-- The name of a method in a document. -/
def lowerName : Method → String
  | get => "get"
  | put => "put"
  | post => "post"
  | delete => "delete"
  | options => "options"
  | head => "head"
  | patch => "patch"
  | trace => "trace"

/-- The name of a method in a request. -/
def upperName : Method → String
  | get => "GET"
  | put => "PUT"
  | post => "POST"
  | delete => "DELETE"
  | options => "OPTIONS"
  | head => "HEAD"
  | patch => "PATCH"
  | trace => "TRACE"

end Method

/-- What a body of one content type looks like. -/
structure MediaType where
  /-- Its schema. -/
  schema : Option (OrRef Schema) := none
  /-- How its parts are encoded, as it is. -/
  encoding : List (String × Json) := []
  /-- An example value. -/
  sample : Option Json := none
  deriving DecidableEq, Inhabited

/-- A request body. -/
structure RequestBody where
  /-- An explanation. -/
  description : Option String := none
  /-- Its media types by content type. -/
  content : List (String × MediaType) := []
  /-- Whether a request must have it. -/
  required : Bool := false
  deriving DecidableEq, Inhabited

/-- A response. -/
structure Response where
  /-- An explanation. -/
  description : String := ""
  /-- Its media types by content type. -/
  content : List (String × MediaType) := []
  /-- Its headers, as they are. -/
  headers : List (String × Json) := []
  deriving DecidableEq, Inhabited

/-- An operation. -/
structure Operation where
  /-- The name that the document gives it. -/
  operationId : Option String := none
  /-- What it does, in brief. -/
  summary : Option String := none
  /-- What it does. -/
  description : Option String := none
  /-- The groups it belongs to. -/
  tags : List String := []
  /-- Its own parameters. -/
  parameters : List (OrRef Parameter) := []
  /-- Its request body. -/
  requestBody : Option (OrRef RequestBody) := none
  /-- Its responses by status. -/
  responses : List (String × OrRef Response) := []
  /-- Whether it should no longer be used. -/
  deprecated : Option Bool := none
  /-- Its security requirements, if they differ from those of the document. -/
  security : Option (List SecurityRequirement) := none
  deriving DecidableEq, Inhabited

/-- What is declared for one path. -/
structure PathItem where
  /-- What it is, in brief. -/
  summary : Option String := none
  /-- What it is. -/
  description : Option String := none
  /-- The parameters of all its operations. -/
  parameters : List (OrRef Parameter) := []
  /-- Its operations in the order of `Method.all`. -/
  operations : List (Method × Operation) := []
  deriving DecidableEq, Inhabited

end ApiModel
