import ApiModel.Endpoint.Basic
import ApiModel.Schemas.Composition
import ApiModel.Schemas.Allocation

/-!
# Inputs of endpoints

For each content type of its request body an endpoint has one object schema that holds everything
that a request carries: the properties of the body, the declared parameters, and the credentials, in
that order.  Where a field travels is kept beside it.  A parameter replaces a property of the body
of the same name; a parameter whose name an earlier parameter has stands under its name and
location; a credential replaces nothing and is never required.
-/

namespace ApiModel

/-- What a body gives to an input. -/
structure BodyFields where
  /-- The properties. -/
  properties : List (String × OrRef Schema) := []
  /-- The names of those that must be there. -/
  required : List String := []
  /-- Nothing but properties must be there. -/
  has_of_required : ∀ name ∈ required, Entries.has properties name = true := by decide

/-- A field of an input. -/
structure InputField where
  /-- What its value looks like. -/
  schema : OrRef Schema
  /-- Where it travels. -/
  location : FieldLocation
  deriving DecidableEq

/-- An input in the making. -/
structure Input where
  /-- The fields by name. -/
  fields : List (String × InputField) := []
  /-- The names of the fields that must be there. -/
  required : List String := []
  /-- What was noted. -/
  notes : List Diagnostic := []

namespace BodyFields

/-- The field of a body that is no object. -/
def wrappedField : String := "body"

/-- A body under a field of its own. -/
def wrapped (s : OrRef Schema) (required : Bool) : BodyFields where
  properties := [(wrappedField, s)]
  required := if required then [wrappedField] else []
  has_of_required := by cases required <;> simp [Entries.has]

/-- The properties of an object schema. -/
def ofObject (s : Schema) : BodyFields where
  properties := s.properties
  required := s.required.filter (Entries.has s.properties ·)
  has_of_required _ h := (List.mem_filter.1 h).2

/-- The properties of a merged composition. -/
def ofComposition (r : Resolver) (s : Schema) : Except RefError BodyFields :=
  match h : Composition.merge r s with
  | .error e => .error e
  | .ok shape => .ok ⟨shape.properties, shape.required, Composition.has_of_merge h⟩

/-- Whether an object schema lists its properties. -/
def listsProperties (s : Schema) : Bool :=
  !s.properties.isEmpty || s.additionalProperties.isNone

/-- What a body gives to an input: the properties of an object or of a merged composition, or else
the body as a whole. -/
def ofBody (r : Resolver) (s : OrRef Schema) (required : Bool) : Except RefError BodyFields := do
  let resolved ← r.schema s
  match Kind.ofSchema resolved with
  | .composition _ => ofComposition r resolved
  | .object =>
    return if listsProperties resolved then ofObject resolved else wrapped s required
  | _ => return wrapped s required

end BodyFields

namespace Input

/-- The endings of the names of input schemas. -/
def nameEndings : List String :=
  ["Input", "Payload", "Request"]

/-- The names that the input schema of an operation may get. -/
def candidates (name : Name) : List String :=
  nameEndings.map (name.pascal ++ ·)

/-- The input with the fields of a body. -/
def ofBody (b : BodyFields) : Input where
  fields := Entries.ofPairs (b.properties.map fun (name, s) => (name, ⟨s, .body⟩))
  required := b.required

/-- The name of a parameter together with its location. -/
def qualifiedName (p : EndpointParameter) : String :=
  p.wireName ++ "_" ++ p.location.name

/-- What is noted when a parameter replaces a property of the body. -/
def shadowsNote (e : Endpoint) (p : EndpointParameter) : Diagnostic :=
  e.diagnostic .parameterShadowsBodyField
    (p.location.name ++ " parameter \x60" ++ p.wireName ++
      "\x60 replaces the body property of the same name")

/-- What is noted when a parameter has the name of an earlier one. -/
def clashNote (e : Endpoint) (p : EndpointParameter) (held : FieldLocation) : Diagnostic :=
  e.diagnostic .parameterNameClash
    (p.location.name ++ " parameter \x60" ++ p.wireName ++ "\x60 shares its name with a " ++
      held.name ++ " parameter; keyed as \x60" ++ qualifiedName p ++ "\x60")

/-- What is noted when a credential has the name of another field. -/
def droppedNote (e : Endpoint) (c : Credential) : Diagnostic :=
  e.diagnostic .securityFieldShadowed
    ("security parameter \x60" ++ c.name ++ "\x60 from \x60" ++ c.scheme ++
      "\x60 clashes with an existing field and was dropped")

/-- The field name of a parameter, and what is noted about it. -/
def placeFor (e : Endpoint) (i : Input) (p : EndpointParameter) : String × List Diagnostic :=
  match Entries.find? p.wireName i.fields with
  | none => (p.wireName, [])
  | some ⟨_, .body⟩ => (p.wireName, [shadowsNote e p])
  | some ⟨_, held⟩ => (qualifiedName p, [clashNote e p held])

/-- Adds a declared parameter. -/
def addParameter (e : Endpoint) (i : Input) (p : EndpointParameter) : Input :=
  let (name, notes) := i.placeFor e p
  { fields := Entries.insert name ⟨p.schema.getD (.inline {}), p.location.toField⟩ i.fields
    required := if p.required && !i.required.contains name then i.required ++ [name] else i.required
    notes := i.notes ++ notes }

/-- The schema of the field of a credential. -/
def credentialSchema : Schema :=
  { type := some (.single .string) }

/-- Adds a credential unless a field has its name. -/
def addCredential (e : Endpoint) (i : Input) (c : Credential) : Input :=
  if Entries.has i.fields c.name then { i with notes := i.notes ++ [droppedNote e c] }
  else { i with fields := i.fields ++ [(c.name, ⟨.inline credentialSchema, .input⟩)] }

/-- The input of an endpoint with the fields of a body. -/
def ofEndpoint (e : Endpoint) (b : BodyFields) : Input :=
  e.credentials.foldl (addCredential e) (e.parameters.foldl (addParameter e) (ofBody b))

/-- Whether a name is that of a credential. -/
def isCredential (i : Input) (name : String) : Bool :=
  (Entries.find? name i.fields).any (·.location == .input)

/-- The schema of an input. -/
def toSchema (i : Input) : Schema :=
  { Schema.emptyObject with
    properties := i.fields.map fun (name, f) => (name, f.schema)
    required := i.required.filter (!i.isCredential ·)
    fieldLocations := i.fields.map fun (name, f) => (name, f.location) }

end Input

/-- The resolver over given components and the schemas so far. -/
def Draft.resolver (d : Draft) (c : Components) : Resolver :=
  ⟨c, d.registry.entries⟩

namespace Endpoint

/-- The content type of the input of an endpoint without a request body. -/
def noBodyContentType : String := "application/x-oasir-empty"

/-- What is noted when a request body gives no schema. -/
def noSchemaNote (e : Endpoint) (contentType : String) : Diagnostic :=
  e.diagnostic .emptyMediaType
    ("request body \x60" ++ contentType ++ "\x60 declares no schema; using an empty object")

/-- What the body of a content type gives to the input, and what is noted about it. -/
def bodyFields (e : Endpoint) (r : Resolver) (required : Bool) (contentType : String)
    (media : MediaType) : Except RefError (BodyFields × List Diagnostic) :=
  match media.schema with
  | some s => (BodyFields.ofBody r s required).map (·, [])
  | none => .ok ({}, [e.noSchemaNote contentType])

/-- Registers the input with the fields of a body, and gives its name. -/
def registerInput (e : Endpoint) (d : Draft) (b : BodyFields) :
    Except BuildError (String × Draft) :=
  let input := Input.ofEndpoint e b
  (d.note input.notes).register (Input.candidates e.name) (.inline input.toSchema)

/-- The media type with a reference to a schema. -/
def pointAt (media : MediaType) (name : String) : MediaType :=
  { media with schema := some (Schema.reference name) }

/-- The names of the inputs of content types, and the content with references to them. -/
def registerContent (e : Endpoint) (c : Components) (required : Bool) (d : Draft) :
    List (String × MediaType) →
      Except BuildError (List (String × String) × List (String × MediaType) × Draft)
  | [] => .ok ([], [], d)
  | (contentType, media) :: rest => do
    let (fields, notes) ← liftRef (e.bodyFields (d.resolver c) required contentType media)
    let (name, d) ← e.registerInput (d.note notes) fields
    let (names, content, d) ← e.registerContent c required d rest
    return ((contentType, name) :: names, (contentType, pointAt media name) :: content, d)

/-- The request body that an operation declares. -/
def declaredBody (d : Draft) (c : Components) (op : Operation) :
    Except RefError (Option RequestBody) :=
  match op.requestBody with
  | none => .ok none
  | some body => ((d.resolver c).requestBody body).map some

/-- The names of the inputs of an endpoint, and the request body with references to them.  Without
any content there is one input under a content type of its own. -/
def registerInputs (e : Endpoint) (c : Components) (d : Draft) (op : Operation) :
    Except BuildError (List (String × String) × RequestBody × Draft) := do
  let declared ← liftRef (declaredBody d c op)
  let body := declared.getD {}
  if body.content.isEmpty then
    let (name, d) ← e.registerInput d {}
    return ([(noBodyContentType, name)],
      { body with content := [(noBodyContentType, pointAt {} name)], required := false }, d)
  else
    let (names, content, d) ← e.registerContent c body.required d body.content
    return (names, { body with content }, d)

end Endpoint

end ApiModel
