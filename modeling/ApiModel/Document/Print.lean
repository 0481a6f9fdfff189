import ApiModel.Document.Basic
import ApiModel.Json.Printer

/-!
# Writing documents

The JSON form of documents and their parts.  Fields come in a fixed order; what is missing or empty
is left out, except for the few fields that always stand.
-/

namespace ApiModel

variable {α : Type}

namespace Json

/-- A member that always stands. -/
def member (name : String) (v : Json) : List (String × Json) :=
  [(name, v)]

/-- A member that stands if there is a value. -/
def optionalMember (name : String) (f : α → Json) : Option α → List (String × Json)
  | none => []
  | some v => [(name, f v)]

/-- A member that stands if a list is not empty. -/
def listMember (name : String) (f : α → Json) : List α → List (String × Json)
  | [] => []
  | v :: vs => [(name, .array ((v :: vs).map f))]

/-- The object of a map. -/
def ofEntries (f : α → Json) (entries : List (String × α)) : Json :=
  .object (entries.map fun (k, v) => (k, f v))

/-- A member that stands if a map is not empty. -/
def mapMember (name : String) (f : α → Json) : List (String × α) → List (String × Json)
  | [] => []
  | e :: es => [(name, ofEntries f (e :: es))]

/-- The value of a natural number. -/
def ofNat (n : Nat) : Json :=
  .number (.int n)

/-- The value of a binary64. -/
def ofBinary64 (x : Number.Binary64) : Json :=
  .number (.float x)

end Json

open Json

/-- The JSON form of a reference. -/
def OrRef.refJson (pointer : String) : Json :=
  .object [("$ref", .string pointer)]

/-- The JSON form of a value or a reference. -/
def OrRef.toJson (f : α → Json) : OrRef α → Json
  | .ref p => refJson p
  | .inline v => f v

/-- The JSON form of the `type` keyword. -/
def TypeSet.toJson : TypeSet → Json
  | single t => .string t.name
  | several ts => .array (ts.map fun t => .string t.name)

/-- The JSON form of a discriminator. -/
def Discriminator.toJson (d : Discriminator) : Json :=
  .object (member "propertyName" (.string d.propertyName) ++ mapMember "mapping" .string d.mapping)

/-- The members for the bounds of a schema. -/
def Constraints.members (c : Constraints) : List (String × Json) :=
  optionalMember "minimum" ofBinary64 c.minimum ++
  optionalMember "maximum" ofBinary64 c.maximum ++
  optionalMember "minLength" ofNat c.minLength ++
  optionalMember "maxLength" ofNat c.maxLength ++
  optionalMember "pattern" .string c.pattern ++
  optionalMember "minItems" ofNat c.minItems ++
  optionalMember "maxItems" ofNat c.maxItems ++
  optionalMember "uniqueItems" .bool c.uniqueItems

namespace Schema

mutual

/-- The JSON form of a schema. -/
def toJson : Schema → Json
  | ⟨type, format, title, description, default, nullable, properties, required, additional, items,
      allOf, oneOf, anyOf, discriminator, enum, const, readOnly, writeOnly, sample, constraints,
      locations⟩ =>
    .object
      (optionalMember "type" TypeSet.toJson type ++
      optionalMember "format" .string format ++
      optionalMember "title" .string title ++
      optionalMember "description" .string description ++
      optionalMember "default" id default ++
      optionalMember "nullable" .bool nullable ++
      mapMember "properties" id (propertiesJson properties) ++
      listMember "required" .string required ++
      optionalMember "additionalProperties" id (additionalJson additional) ++
      optionalMember "items" id (itemsJson items) ++
      listMember "allOf" id (branchesJson allOf) ++
      listMember "oneOf" id (branchesJson oneOf) ++
      listMember "anyOf" id (branchesJson anyOf) ++
      optionalMember "discriminator" Discriminator.toJson discriminator ++
      listMember "enum" id enum ++
      optionalMember "const" id const ++
      optionalMember "readOnly" .bool readOnly ++
      optionalMember "writeOnly" .bool writeOnly ++
      optionalMember "example" id sample ++
      constraints.members ++
      mapMember "x-field-locations" (fun l => .string l.name) locations)

/-- The JSON form of a schema or a reference to one. -/
def refToJson : OrRef Schema → Json
  | .ref p => OrRef.refJson p
  | .inline s => s.toJson

/-- The JSON forms of properties. -/
def propertiesJson : List (String × OrRef Schema) → List (String × Json)
  | [] => []
  | (k, s) :: rest => (k, refToJson s) :: propertiesJson rest

/-- The JSON form of the value of `additionalProperties`. -/
def additionalJson : Option (Additional Schema) → Option Json
  | none => none
  | some (.allowed b) => some (.bool b)
  | some (.schema s) => some (refToJson s)

/-- The JSON form of the schema of the items. -/
def itemsJson : Option (OrRef Schema) → Option Json
  | none => none
  | some s => some (refToJson s)

/-- The JSON forms of branches. -/
def branchesJson : List (OrRef Schema) → List Json
  | [] => []
  | s :: rest => refToJson s :: branchesJson rest

end

end Schema

/-- The JSON form of a parameter. -/
def Parameter.toJson (p : Parameter) : Json :=
  .object
    (member "name" (.string p.name) ++
    member "in" (.string p.location.name) ++
    optionalMember "description" .string p.description ++
    member "required" (.bool p.required) ++
    optionalMember "deprecated" .bool p.deprecated ++
    optionalMember "schema" Schema.refToJson p.schema ++
    optionalMember "style" .string p.style ++
    optionalMember "explode" .bool p.explode)

/-- The JSON form of a media type. -/
def MediaType.toJson (t : MediaType) : Json :=
  .object
    (optionalMember "schema" Schema.refToJson t.schema ++
    mapMember "encoding" id t.encoding ++
    optionalMember "example" id t.sample)

/-- The JSON form of a request body. -/
def RequestBody.toJson (b : RequestBody) : Json :=
  .object
    (optionalMember "description" .string b.description ++
    member "content" (ofEntries MediaType.toJson b.content) ++
    member "required" (.bool b.required))

/-- The JSON form of a response. -/
def Response.toJson (r : Response) : Json :=
  .object
    (member "description" (.string r.description) ++
    mapMember "content" MediaType.toJson r.content ++
    mapMember "headers" id r.headers)

/-- The JSON form of a security scheme. -/
def SecurityScheme.toJson (s : SecurityScheme) : Json :=
  .object
    (member "type" (.string s.type.name) ++
    optionalMember "description" .string s.description ++
    optionalMember "name" .string s.name ++
    optionalMember "in" (fun l => .string l.name) s.location ++
    optionalMember "scheme" .string s.scheme ++
    optionalMember "bearerFormat" .string s.bearerFormat ++
    optionalMember "flows" id s.flows ++
    optionalMember "openIdConnectUrl" .string s.openIdConnectUrl)

/-- The JSON form of a security requirement. -/
def SecurityRequirement.toJson (r : SecurityRequirement) : Json :=
  ofEntries (fun scopes => .array (scopes.map .string)) r

/-- The JSON form of security requirements. -/
def SecurityRequirement.listToJson (rs : List SecurityRequirement) : Json :=
  .array (rs.map SecurityRequirement.toJson)

/-- The JSON form of an operation. -/
def Operation.toJson (op : Operation) : Json :=
  .object
    (optionalMember "operationId" .string op.operationId ++
    optionalMember "summary" .string op.summary ++
    optionalMember "description" .string op.description ++
    listMember "tags" .string op.tags ++
    listMember "parameters" (OrRef.toJson Parameter.toJson) op.parameters ++
    optionalMember "requestBody" (OrRef.toJson RequestBody.toJson) op.requestBody ++
    mapMember "responses" (OrRef.toJson Response.toJson) op.responses ++
    optionalMember "deprecated" .bool op.deprecated ++
    optionalMember "security" SecurityRequirement.listToJson op.security)

/-- The JSON form of a path. -/
def PathItem.toJson (item : PathItem) : Json :=
  .object
    (optionalMember "summary" .string item.summary ++
    optionalMember "description" .string item.description ++
    listMember "parameters" (OrRef.toJson Parameter.toJson) item.parameters ++
    item.operations.map fun (method, op) => (method.lowerName, op.toJson))

/-- The JSON form of components. -/
def Components.toJson (c : Components) : Json :=
  .object
    (mapMember "schemas" Schema.refToJson c.schemas ++
    mapMember "responses" (OrRef.toJson Response.toJson) c.responses ++
    mapMember "parameters" (OrRef.toJson Parameter.toJson) c.parameters ++
    mapMember "requestBodies" (OrRef.toJson RequestBody.toJson) c.requestBodies ++
    mapMember "securitySchemes" SecurityScheme.toJson c.securitySchemes)

/-- The JSON form of what a document is about. -/
def Info.toJson (i : Info) : Json :=
  .object
    (member "title" (.string i.title) ++
    optionalMember "description" .string i.description ++
    member "version" (.string i.version))

/-- The JSON form of a server. -/
def Server.toJson (s : Server) : Json :=
  .object
    (member "url" (.string s.url) ++
    optionalMember "description" .string s.description ++
    mapMember "variables" id s.placeholders)

/-- The JSON form of a group of operations. -/
def Tag.toJson (t : Tag) : Json :=
  .object
    (member "name" (.string t.name) ++
    optionalMember "description" .string t.description)

/-- The JSON form of a document. -/
def Document.toJson (d : Document) : Json :=
  .object
    (member "openapi" (.string d.openapi) ++
    member "info" d.info.toJson ++
    listMember "servers" Server.toJson d.servers ++
    member "paths" (ofEntries PathItem.toJson d.paths) ++
    optionalMember "components" Components.toJson d.components ++
    listMember "tags" Tag.toJson d.tags ++
    optionalMember "security" SecurityRequirement.listToJson d.security)

end ApiModel
