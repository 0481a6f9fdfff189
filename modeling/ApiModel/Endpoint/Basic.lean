import ApiModel.Document.Operation
import ApiModel.Model.Error
import ApiModel.Naming.Name

/-!
# Endpoints

An `Endpoint` is an operation of a document after its name, its parameters, its credentials, its
inputs and its responses have been settled.
-/

namespace ApiModel

/-- A declared parameter of an endpoint. -/
structure EndpointParameter where
  /-- Its name. -/
  name : Name
  /-- Its name on the wire. -/
  wireName : String
  /-- Where it travels. -/
  location : ParameterLocation
  /-- What its value looks like. -/
  schema : Option (OrRef Schema) := none
  /-- Whether a request must carry it. -/
  required : Bool := false
  /-- An explanation. -/
  description : Option String := none
  /-- Whether it should no longer be used. -/
  deprecated : Bool := false
  deriving DecidableEq, Inhabited

/-- A parameter that carries a credential of a security scheme. -/
structure Credential where
  /-- Its name on the wire. -/
  name : String
  /-- Where it travels. -/
  location : KeyLocation
  /-- The name of the scheme. -/
  scheme : String
  /-- The kind of the scheme. -/
  type : SchemeType
  /-- What stands before the credential in an authorization header. -/
  httpScheme : Option String := none
  /-- Whether a request must carry it; none that comes from a scheme is required. -/
  required : Bool := false
  deriving DecidableEq, Inhabited

/-- One response that an endpoint can give: a status with at most one content type. -/
structure ResponseCase where
  /-- The status, or a range of them, or `default`. -/
  status : String
  /-- The type of its body. -/
  contentType : Option String := none
  /-- The names of its headers. -/
  headers : List String := []
  /-- What its body looks like. -/
  body : Option (OrRef Schema) := none
  /-- An explanation. -/
  description : Option String := none
  deriving DecidableEq, Inhabited

/-- An operation with everything about it settled. -/
structure Endpoint where
  /-- Its method. -/
  method : Method
  /-- Its path. -/
  path : String
  /-- The group that it belongs to. -/
  tag : String
  /-- Its name. -/
  name : Name
  /-- What it does, in brief. -/
  summary : Option String := none
  /-- What it does. -/
  description : Option String := none
  /-- Whether it should no longer be used. -/
  deprecated : Bool := false
  /-- Its declared parameters. -/
  parameters : List EndpointParameter := []
  /-- The parameters that carry its credentials. -/
  credentials : List Credential := []
  /-- The names of its input schemas by content type. -/
  inputs : List (String × String) := []
  /-- The responses that it can give. -/
  responses : List ResponseCase := []
  deriving DecidableEq

namespace Endpoint

/-- The name by which an endpoint is known. -/
def canonicalName (e : Endpoint) : String :=
  e.name.camel

/-- The pointer to the first input schema. -/
def inputPointer? (e : Endpoint) : Option String :=
  e.inputs.head?.map fun (_, name) => Schema.pointerPrefix ++ name

/-- Something to note about an endpoint. -/
def diagnostic (e : Endpoint) (kind : DiagnosticKind) (message : String) : Diagnostic :=
  ⟨kind, some e.canonicalName, message⟩

end Endpoint

end ApiModel
