import ApiModel.Document.Operation

/-!
# Documents

An OpenAPI document: what it is about, its paths with their operations, and the components that the
rest refers to.
-/

namespace ApiModel

/-- What a document is about. -/
structure Info where
  /-- Its title. -/
  title : String
  /-- An explanation. -/
  description : Option String := none
  /-- Its version. -/
  version : String
  deriving DecidableEq, Inhabited

/-- Where the described service runs. -/
structure Server where
  /-- Its address. -/
  url : String
  /-- An explanation. -/
  description : Option String := none
  /-- The variables in the address, as they are. -/
  placeholders : List (String × Json) := []
  deriving DecidableEq, Inhabited

/-- A group of operations. -/
structure Tag where
  /-- Its name. -/
  name : String
  /-- An explanation. -/
  description : Option String := none
  deriving DecidableEq, Inhabited

/-- Definitions that pointers refer to. -/
structure Components where
  /-- Schemas by name. -/
  schemas : List (String × OrRef Schema) := []
  /-- Responses by name. -/
  responses : List (String × OrRef Response) := []
  /-- Parameters by name. -/
  parameters : List (String × OrRef Parameter) := []
  /-- Request bodies by name. -/
  requestBodies : List (String × OrRef RequestBody) := []
  /-- Security schemes by name. -/
  securitySchemes : List (String × SecurityScheme) := []
  deriving DecidableEq, Inhabited

/-- An OpenAPI document. -/
structure Document where
  /-- The version of OpenAPI. -/
  openapi : String
  /-- What it is about. -/
  info : Info
  /-- Where the service runs. -/
  servers : List Server := []
  /-- What is declared for each path. -/
  paths : List (String × PathItem) := []
  /-- Definitions that pointers refer to. -/
  components : Option Components := none
  /-- The groups of operations. -/
  tags : List Tag := []
  /-- The security requirements of operations that state none. -/
  security : Option (List SecurityRequirement) := none
  deriving DecidableEq, Inhabited

namespace Document

/-- The components, empty ones when the document has none. -/
def componentsD (d : Document) : Components :=
  d.components.getD {}

/-- The security requirements of operations that state none. -/
def defaultSecurity (d : Document) : List SecurityRequirement :=
  d.security.getD []

/-- The declared operations with their paths, in the order of paths and of methods. -/
def operations (d : Document) : List (String × Method × Operation) :=
  d.paths.flatMap fun (path, item) => item.operations.map fun (method, op) => (path, method, op)

end Document

end ApiModel
