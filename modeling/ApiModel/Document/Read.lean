import ApiModel.Document.Basic
import ApiModel.Json.Reader
import ApiModel.Tree.Record
import ApiModel.Yaml.Reader

/-!
# Reading documents

How documents and their parts are read from trees.  Where a reference may stand, a map with one text
under `$ref` is a reference and everything else in it is skipped; such places, and all inside them,
are read with settled types and as a whole.  Around them a record is read as far as its outline says.
-/

namespace ApiModel

open ApiModel.Tree

variable {α : Type}

/-- The pointer of a map that is a reference. -/
def Tree.pointer? (t : Tree) : Option String :=
  match t with
  | map _ entries => do
    let fields ← fieldsOf? ["$ref"] entries
    (Entries.find? "$ref" fields).bind string?
  | _ => none

/-- A reference or a value. -/
def OrRef.ofTree? (read : Tree → Option α) (t : Tree) : Option (OrRef α) :=
  t.typed?.bind fun t =>
    match t.pointer? with
    | some p => some (.ref p)
    | none => (read t).map .inline

/-- The value of the `type` keyword. -/
def TypeSet.ofTree? (t : Tree) : Option TypeSet :=
  match t.choice? ValueType.names with
  | some type => some (.single type)
  | none =>
    match t with
    | list _ items => (items.mapM (choice? ValueType.names)).map .several
    | _ => none

/-- A discriminator. -/
def Discriminator.ofTree? (t : Tree) : Option Discriminator := do
  let r ← t.record? ["propertyName", "mapping"]
  let propertyName ← r.required? "propertyName" string?
  let mapping ← r.getD? "mapping" (entriesOf? string?) []
  some { propertyName, mapping }

namespace Schema

/-- The keywords of a schema. -/
def keywords : List String :=
  ["type", "format", "title", "description", "default", "nullable", "properties", "required",
    "additionalProperties", "items", "allOf", "oneOf", "anyOf", "discriminator", "enum", "const",
    "readOnly", "writeOnly", "example", "minimum", "maximum", "minLength", "maxLength", "pattern",
    "minItems", "maxItems", "uniqueItems", "x-field-locations"]

/-- The known keywords of a map whose other keys may be texts and indices. -/
def keywordsOf? (entries : List (Tree × Tree)) : Option Record :=
  let isIndex : Tree → Bool
    | number (.int i) => 0 ≤ i
    | _ => false
  (fieldsOf? keywords (entries.filter (!isIndex ·.1))).map (⟨false, ·⟩)

/-- The parts of a schema that are schemas. -/
structure Parts where
  /-- The schemas of the properties. -/
  properties : List (String × OrRef Schema) := []
  /-- What other properties there may be. -/
  additionalProperties : Option (Additional Schema) := none
  /-- The schema of the items. -/
  items : Option (OrRef Schema) := none
  /-- Schemas that all hold. -/
  allOf : List (OrRef Schema) := []
  /-- Schemas of which exactly one holds. -/
  oneOf : List (OrRef Schema) := []
  /-- Schemas of which at least one holds. -/
  anyOf : List (OrRef Schema) := []

/-- The bounds of a schema. -/
def constraints? (r : Record) : Option Constraints := do
  let minimum ← r.optional? "minimum" binary64?
  let maximum ← r.optional? "maximum" binary64?
  let minLength ← r.optional? "minLength" nat?
  let maxLength ← r.optional? "maxLength" nat?
  let pattern ← r.optional? "pattern" string?
  let minItems ← r.optional? "minItems" nat?
  let maxItems ← r.optional? "maxItems" nat?
  let uniqueItems ← r.optional? "uniqueItems" bool?
  some { minimum, maximum, minLength, maxLength, pattern, minItems, maxItems, uniqueItems }

/-- A schema with given parts. -/
def ofRecord? (r : Record) (parts : Parts) : Option Schema := do
  let type ← r.optional? "type" TypeSet.ofTree?
  let format ← r.optional? "format" string?
  let title ← r.optional? "title" string?
  let description ← r.optional? "description" string?
  let default ← r.optional? "default" json?
  let nullable ← r.optional? "nullable" bool?
  let required ← r.getD? "required" (list? string?) []
  let discriminator ← r.optional? "discriminator" Discriminator.ofTree?
  let enum ← r.getD? "enum" (list? json?) []
  let const ← r.optional? "const" json?
  let readOnly ← r.optional? "readOnly" bool?
  let writeOnly ← r.optional? "writeOnly" bool?
  let sample ← r.optional? "example" json?
  let constraints ← constraints? r
  let fieldLocations ← r.getD? "x-field-locations" (entriesOf? (choice? FieldLocation.names)) []
  let ⟨properties, additionalProperties, items, allOf, oneOf, anyOf⟩ := parts
  some
    { type, format, title, description, default, nullable, properties, required,
      additionalProperties, items, allOf, oneOf, anyOf, discriminator, enum, const, readOnly,
      writeOnly, sample, constraints, fieldLocations }

mutual

/-- A reference to a schema, or a schema, from a tree with settled types. -/
def refOfTyped? : Tree → Option (OrRef Schema)
  | map settled entries =>
    match (map settled entries).pointer? with
    | some p => some (.ref p)
    | none => do
      let r ← keywordsOf? entries
      let parts ← partsOf? entries
      let s ← ofRecord? r parts
      some (.inline s)
  | _ => none

/-- The parts of a schema that are schemas, from its entries. -/
def partsOf? : List (Tree × Tree) → Option Parts
  | [] => some {}
  | (key, v) :: rest => do
    let parts ← partsOf? rest
    match key with
    | text "properties" =>
      let properties ← propertiesOf? v
      some { parts with properties }
    | text "additionalProperties" =>
      match v with
      | null => some parts
      | Tree.bool b => some { parts with additionalProperties := some (.allowed b) }
      | v =>
        let s ← refOfTyped? v
        some { parts with additionalProperties := some (.schema s) }
    | text "items" =>
      match v with
      | null => some parts
      | v =>
        let s ← refOfTyped? v
        some { parts with items := some s }
    | text "allOf" =>
      let allOf ← branchesOf? v
      some { parts with allOf }
    | text "oneOf" =>
      let oneOf ← branchesOf? v
      some { parts with oneOf }
    | text "anyOf" =>
      let anyOf ← branchesOf? v
      some { parts with anyOf }
    | _ => some parts

/-- Schemas by name. -/
def propertiesOf? : Tree → Option (List (String × OrRef Schema))
  | map _ entries => (pairsOf? entries).map Entries.ofPairs
  | _ => none

/-- Names and schemas. -/
def pairsOf? : List (Tree × Tree) → Option (List (String × OrRef Schema))
  | [] => some []
  | (key, v) :: rest => do
    let k ← key.string?
    let s ← refOfTyped? v
    let rest ← pairsOf? rest
    some ((k, s) :: rest)

/-- A list of schemas. -/
def branchesOf? : Tree → Option (List (OrRef Schema))
  | list _ items => itemsOf? items
  | _ => none

/-- Schemas. -/
def itemsOf? : List Tree → Option (List (OrRef Schema))
  | [] => some []
  | v :: rest => do
    let s ← refOfTyped? v
    let rest ← itemsOf? rest
    some (s :: rest)

end

/-- A reference to a schema, or a schema. -/
def refOfTree? (t : Tree) : Option (OrRef Schema) :=
  t.typed?.bind refOfTyped?

end Schema

/-- A parameter. -/
def Parameter.ofTree? (t : Tree) : Option Parameter := do
  let r ← t.record?
    ["name", "in", "description", "required", "deprecated", "schema", "style", "explode"]
  let name ← r.required? "name" string?
  let location ← r.required? "in" (choice? ParameterLocation.names)
  let description ← r.optional? "description" string?
  let required ← r.getD? "required" bool? false
  let deprecated ← r.optional? "deprecated" bool?
  let schema ← r.optional? "schema" Schema.refOfTree?
  let style ← r.optional? "style" string?
  let explode ← r.optional? "explode" bool?
  some { name, location, description, required, deprecated, schema, style, explode }

/-- A parameter or a reference to one. -/
def Parameter.refOfTree? : Tree → Option (OrRef Parameter) :=
  OrRef.ofTree? Parameter.ofTree?

/-- A media type. -/
def MediaType.ofTree? (t : Tree) : Option MediaType := do
  let r ← t.record? ["schema", "encoding", "example"]
  let schema ← r.optional? "schema" Schema.refOfTree?
  let encoding ← r.getD? "encoding" (entriesOf? json?) []
  let sample ← r.optional? "example" json?
  some { schema, encoding, sample }

/-- A request body. -/
def RequestBody.ofTree? (t : Tree) : Option RequestBody := do
  let r ← t.record? ["description", "content", "required"]
  let description ← r.optional? "description" string?
  let content ← r.getD? "content" (entriesOf? MediaType.ofTree?) []
  let required ← r.getD? "required" bool? false
  some { description, content, required }

/-- A request body or a reference to one. -/
def RequestBody.refOfTree? : Tree → Option (OrRef RequestBody) :=
  OrRef.ofTree? RequestBody.ofTree?

/-- A response. -/
def Response.ofTree? (t : Tree) : Option Response := do
  let r ← t.record? ["description", "content", "headers"]
  let description ← r.getD? "description" string? ""
  let content ← r.getD? "content" (entriesOf? MediaType.ofTree?) []
  let headers ← r.getD? "headers" (entriesOf? json?) []
  some { description, content, headers }

/-- A response or a reference to one. -/
def Response.refOfTree? : Tree → Option (OrRef Response) :=
  OrRef.ofTree? Response.ofTree?

/-- The fields of a security scheme. -/
def SecurityScheme.outline : Outline :=
  .fields
    ["type", "description", "name", "in", "scheme", "bearerFormat", "flows", "openIdConnectUrl"]

/-- A security scheme. -/
def SecurityScheme.ofTree? (t : Tree) : Option SecurityScheme := do
  let r ← t.record? outline.names
  let type ← r.required? "type" (choice? SchemeType.names)
  let description ← r.optional? "description" string?
  let name ← r.optional? "name" string?
  let location ← r.optional? "in" (choice? KeyLocation.names)
  let scheme ← r.optional? "scheme" string?
  let bearerFormat ← r.optional? "bearerFormat" string?
  let flows ← r.optional? "flows" json?
  let openIdConnectUrl ← r.optional? "openIdConnectUrl" string?
  some { type, description, name, location, scheme, bearerFormat, flows, openIdConnectUrl }

/-- A list of security requirements. -/
def SecurityRequirement.listOfTree? : Tree → Option (List SecurityRequirement) :=
  list? (entriesOf? (list? string?))

/-- The fields of an operation. -/
def Operation.outline : Outline :=
  .fields
    ["operationId", "summary", "description", "tags", "parameters", "requestBody", "responses",
      "deprecated", "security"]

/-- An operation. -/
def Operation.ofTree? (t : Tree) : Option Operation := do
  let r ← t.record? outline.names
  let operationId ← r.optional? "operationId" string?
  let summary ← r.optional? "summary" string?
  let description ← r.optional? "description" string?
  let tags ← r.getD? "tags" (list? string?) []
  let parameters ← r.getD? "parameters" (list? Parameter.refOfTree?) []
  let requestBody ← r.optional? "requestBody" RequestBody.refOfTree?
  let responses ← r.getD? "responses" (entriesOf? Response.refOfTree?) []
  let deprecated ← r.optional? "deprecated" bool?
  let security ← r.optional? "security" SecurityRequirement.listOfTree?
  some
    { operationId, summary, description, tags, parameters, requestBody, responses, deprecated,
      security }

/-- The operations of a record by method. -/
def PathItem.operationsOf? (r : Record) : List Method → Option (List (Method × Operation))
  | [] => some []
  | method :: rest => do
    let op ← r.optional? method.lowerName Operation.ofTree?
    let ops ← operationsOf? r rest
    match op with
    | some op => some ((method, op) :: ops)
    | none => some ops

/-- The fields of what is declared for a path. -/
def PathItem.outline : Outline :=
  .record
    ([("summary", .whole), ("description", .whole), ("parameters", .whole)] ++
      Method.all.map fun method => (method.lowerName, Operation.outline))

/-- What is declared for a path. -/
def PathItem.ofTree? (t : Tree) : Option PathItem := do
  let r ← t.record? outline.names
  let summary ← r.optional? "summary" string?
  let description ← r.optional? "description" string?
  let parameters ← r.getD? "parameters" (list? Parameter.refOfTree?) []
  let operations ← operationsOf? r Method.all
  some { summary, description, parameters, operations }

/-- The fields of components. -/
def Components.outline : Outline :=
  .record
    [("schemas", .whole), ("responses", .whole), ("parameters", .whole), ("requestBodies", .whole),
      ("securitySchemes", .map SecurityScheme.outline)]

/-- Components. -/
def Components.ofTree? (t : Tree) : Option Components := do
  let r ← t.record? outline.names
  let schemas ← r.getD? "schemas" (entriesOf? Schema.refOfTree?) []
  let responses ← r.getD? "responses" (entriesOf? Response.refOfTree?) []
  let parameters ← r.getD? "parameters" (entriesOf? Parameter.refOfTree?) []
  let requestBodies ← r.getD? "requestBodies" (entriesOf? RequestBody.refOfTree?) []
  let securitySchemes ← r.getD? "securitySchemes" (entriesOf? SecurityScheme.ofTree?) []
  some { schemas, responses, parameters, requestBodies, securitySchemes }

/-- The fields of what a document is about. -/
def Info.outline : Outline :=
  .fields ["title", "description", "version"]

/-- What a document is about. -/
def Info.ofTree? (t : Tree) : Option Info := do
  let r ← t.record? outline.names
  let title ← r.required? "title" string?
  let description ← r.optional? "description" string?
  let version ← r.required? "version" string?
  some { title, description, version }

/-- The fields of a place where a service runs. -/
def Server.outline : Outline :=
  .fields ["url", "description", "variables"]

/-- Where a service runs. -/
def Server.ofTree? (t : Tree) : Option Server := do
  let r ← t.record? outline.names
  let url ← r.required? "url" string?
  let description ← r.optional? "description" string?
  let placeholders ← r.getD? "variables" (entriesOf? json?) []
  some { url, description, placeholders }

/-- The fields of a group of operations. -/
def Tag.outline : Outline :=
  .fields ["name", "description"]

/-- A group of operations. -/
def Tag.ofTree? (t : Tree) : Option Tag := do
  let r ← t.record? outline.names
  let name ← r.required? "name" string?
  let description ← r.optional? "description" string?
  some { name, description }

/-- The fields of a document. -/
def Document.outline : Outline :=
  .record
    [("openapi", .whole), ("info", Info.outline), ("servers", .list Server.outline),
      ("paths", .map PathItem.outline), ("components", Components.outline),
      ("tags", .list Tag.outline), ("security", .whole)]

/-- A document of any version. -/
def Document.ofTree? (t : Tree) : Option Document := do
  let r ← t.record? outline.names
  let openapi ← r.required? "openapi" string?
  let info ← r.required? "info" Info.ofTree?
  let servers ← r.getD? "servers" (list? Server.ofTree?) []
  let paths ← r.getD? "paths" (entriesOf? PathItem.ofTree?) []
  let components ← r.optional? "components" Components.ofTree?
  let tags ← r.getD? "tags" (list? Tag.ofTree?) []
  let security ← r.optional? "security" SecurityRequirement.listOfTree?
  some { openapi, info, servers, paths, components, tags, security }

/-- The languages in which a text may be written. -/
inductive Syntax where
  | json
  | yaml
  deriving DecidableEq, Repr

/-- What a text says, as far as an outline goes. -/
def Syntax.tree? (language : Syntax) (outline : Outline) (text : String) : Option Tree :=
  match language with
  | .json => Tree.ofJsonText? text
  | .yaml => Tree.ofYamlText? outline text

end ApiModel
