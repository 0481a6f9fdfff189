import ApiModel.Document.Basic

/-!
# Walks over pointers

A document holds pointers where it says `$ref` and in the mappings of discriminators.
`Document.walk` visits each of them once, in a fixed order, and puts what the visit gives in its
place.  Reading the pointers (`Document.pointers`) and replacing them (`Document.mapPointers`) are
both that one walk.
-/

namespace ApiModel

/-- Where a pointer stands. -/
inductive PointerKind where
  /-- In a `$ref`. -/
  | ref
  /-- In the mapping of a discriminator, where it may also be the bare name of a schema. -/
  | mapping
  deriving DecidableEq, Repr

/-- What is done at a pointer: an effect, and the pointer that takes its place. -/
abbrev Visit (m : Type → Type) := PointerKind → String → m String

variable {m : Type → Type} [Monad m] {α : Type}

/-- Visits the values of a map in their order. -/
def walkEntries (f : α → m α) : List (String × α) → m (List (String × α))
  | [] => pure []
  | (k, v) :: rest => do
    let v ← f v
    let rest ← walkEntries f rest
    pure ((k, v) :: rest)

/-- Visits the values of a list in their order. -/
def walkList (f : α → m α) : List α → m (List α)
  | [] => pure []
  | v :: rest => do
    let v ← f v
    let rest ← walkList f rest
    pure (v :: rest)

/-- Visits a value if there is one. -/
def walkOption (f : α → m α) : Option α → m (Option α)
  | none => pure none
  | some v => do
    let v ← f v
    pure (some v)

/-- Visits a pointer, or what is inside a value. -/
def OrRef.walk (visit : Visit m) (f : α → m α) : OrRef α → m (OrRef α)
  | .ref p => do
    let p ← visit .ref p
    pure (.ref p)
  | .inline v => do
    let v ← f v
    pure (.inline v)

/-- Visits the targets of a discriminator. -/
def Discriminator.walk (visit : Visit m) (d : Discriminator) : m Discriminator := do
  let mapping ← walkEntries (visit .mapping) d.mapping
  pure { d with mapping }

namespace Schema

mutual

/-- Visits the pointers of a schema. -/
def walk (visit : Visit m) : Schema → m Schema
  | ⟨type, format, title, description, default, nullable, properties, required, additional, items,
      allOf, oneOf, anyOf, discriminator, enum, const, readOnly, writeOnly, sample, constraints,
      locations⟩ => do
    let properties ← walkProperties visit properties
    let items ← walkItems visit items
    let allOf ← walkBranches visit allOf
    let oneOf ← walkBranches visit oneOf
    let anyOf ← walkBranches visit anyOf
    let additional ← walkAdditional visit additional
    let discriminator ← walkOption (Discriminator.walk visit) discriminator
    pure ⟨type, format, title, description, default, nullable, properties, required, additional,
      items, allOf, oneOf, anyOf, discriminator, enum, const, readOnly, writeOnly, sample,
      constraints, locations⟩

/-- Visits a reference to a schema, or the pointers of a schema. -/
def walkRef (visit : Visit m) : OrRef Schema → m (OrRef Schema)
  | .ref p => do
    let p ← visit .ref p
    pure (.ref p)
  | .inline s => do
    let s ← walk visit s
    pure (.inline s)

/-- Visits the pointers of the properties. -/
def walkProperties (visit : Visit m) :
    List (String × OrRef Schema) → m (List (String × OrRef Schema))
  | [] => pure []
  | (k, s) :: rest => do
    let s ← walkRef visit s
    let rest ← walkProperties visit rest
    pure ((k, s) :: rest)

/-- Visits the pointers of the schema of the items. -/
def walkItems (visit : Visit m) : Option (OrRef Schema) → m (Option (OrRef Schema))
  | none => pure none
  | some s => do
    let s ← walkRef visit s
    pure (some s)

/-- Visits the pointers of branches. -/
def walkBranches (visit : Visit m) : List (OrRef Schema) → m (List (OrRef Schema))
  | [] => pure []
  | s :: rest => do
    let s ← walkRef visit s
    let rest ← walkBranches visit rest
    pure (s :: rest)

/-- Visits the pointers of the schema of additional properties. -/
def walkAdditional (visit : Visit m) :
    Option (Additional Schema) → m (Option (Additional Schema))
  | none => pure none
  | some (.allowed b) => pure (some (.allowed b))
  | some (.schema s) => do
    let s ← walkRef visit s
    pure (some (.schema s))

end

end Schema

/-- Visits the pointers of a parameter. -/
def Parameter.walk (visit : Visit m) (p : Parameter) : m Parameter := do
  let schema ← walkOption (Schema.walkRef visit) p.schema
  pure { p with schema }

/-- Visits the pointers of a media type. -/
def MediaType.walk (visit : Visit m) (t : MediaType) : m MediaType := do
  let schema ← walkOption (Schema.walkRef visit) t.schema
  pure { t with schema }

/-- Visits the pointers of a request body. -/
def RequestBody.walk (visit : Visit m) (b : RequestBody) : m RequestBody := do
  let content ← walkEntries (MediaType.walk visit) b.content
  pure { b with content }

/-- Visits the pointers of a response. -/
def Response.walk (visit : Visit m) (r : Response) : m Response := do
  let content ← walkEntries (MediaType.walk visit) r.content
  pure { r with content }

/-- Visits the pointers of an operation. -/
def Operation.walk (visit : Visit m) (op : Operation) : m Operation := do
  let parameters ← walkList (OrRef.walk visit (Parameter.walk visit)) op.parameters
  let requestBody ← walkOption (OrRef.walk visit (RequestBody.walk visit)) op.requestBody
  let responses ← walkEntries (OrRef.walk visit (Response.walk visit)) op.responses
  pure { op with parameters, requestBody, responses }

/-- Visits the pointers of operations in their order. -/
def PathItem.walkOperations (visit : Visit m) :
    List (Method × Operation) → m (List (Method × Operation))
  | [] => pure []
  | (method, op) :: rest => do
    let op ← op.walk visit
    let rest ← walkOperations visit rest
    pure ((method, op) :: rest)

/-- Visits the pointers of a path: those of its own parameters, then those of its operations. -/
def PathItem.walk (visit : Visit m) (item : PathItem) : m PathItem := do
  let parameters ← walkList (OrRef.walk visit (Parameter.walk visit)) item.parameters
  let operations ← walkOperations visit item.operations
  pure { item with parameters, operations }

/-- Visits the pointers of components: schemas, parameters, request bodies, then responses. -/
def Components.walk (visit : Visit m) (c : Components) : m Components := do
  let schemas ← walkEntries (Schema.walkRef visit) c.schemas
  let parameters ← walkEntries (OrRef.walk visit (Parameter.walk visit)) c.parameters
  let requestBodies ← walkEntries (OrRef.walk visit (RequestBody.walk visit)) c.requestBodies
  let responses ← walkEntries (OrRef.walk visit (Response.walk visit)) c.responses
  pure { c with schemas, parameters, requestBodies, responses }

/-- Visits the pointers of a document: those of its paths, then those of its components. -/
def Document.walk (visit : Visit m) (d : Document) : m Document := do
  let paths ← walkEntries (PathItem.walk visit) d.paths
  let components ← walkOption (Components.walk visit) d.components
  pure { d with paths, components }

/-- The visit that notes each pointer, latest first, and leaves it as it is. -/
def Visit.note : Visit (StateM (List (PointerKind × String))) := fun kind p => do
  modify ((kind, p) :: ·)
  pure p

/-- The pointers of a document in the order of the walk. -/
def Document.pointers (d : Document) : List (PointerKind × String) :=
  ((d.walk Visit.note).run []).2.reverse

/-- The visit that replaces each pointer; the state counts the pointers before it. -/
def Visit.replace (f : Nat → PointerKind → String → String) : Visit (StateM Nat) :=
  fun kind p => do
    let i ← get
    set (i + 1)
    pure (f i kind p)

/-- The document with its pointers replaced; `f` is also given the place of each in the walk. -/
def Document.mapPointers (f : Nat → PointerKind → String → String) (d : Document) : Document :=
  ((d.walk (Visit.replace f)).run 0).1

/-- The components with their pointers replaced. -/
def Components.mapPointers (f : Nat → PointerKind → String → String) (c : Components) :
    Components :=
  ((c.walk (Visit.replace f)).run 0).1

end ApiModel
