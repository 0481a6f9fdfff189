import ApiModel.Document.Walk
import ApiModel.Pointer

/-!
# Resolving pointers

A `Resolver` looks pointers up: schemas in a table of their own, everything else in the components
of a document.  An entry may itself be a reference, so a pointer is followed until a value is found.
A pointer text that comes twice means that there is none; since each text after the first is that of
an entry, a chain is no longer than the table.
-/

namespace ApiModel

variable {α : Type}

/-- Where pointers are looked up. -/
structure Resolver where
  /-- The components for all but schemas. -/
  components : Components := {}
  /-- The schemas. -/
  schemas : List (String × OrRef Schema) := []

/-- What a pointer leads to. -/
inductive Resolved where
  | schema (s : Schema)
  | parameter (p : Parameter)
  | securityScheme (s : SecurityScheme)
  | requestBody (b : RequestBody)
  | response (r : Response)

/-- Follows pointers through a table from `pointer` on. `start` is the first pointer, `seen` are the
pointers before this one, and `fuel` bounds the number of steps. -/
def followFrom (sec : Section) (table : List (String × OrRef α)) (start : String) :
    Nat → List String → String → Except RefError α
  | 0, _, _ => .error (.circular start)
  | fuel + 1, seen, pointer =>
    if pointer ∈ seen then .error (.circular start)
    else
      match Pointer.nameIn sec pointer with
      | .error e => .error e
      | .ok name =>
        match Entries.find? name table with
        | none => .error (.unresolved pointer)
        | some (.inline v) => .ok v
        | some (.ref next) => followFrom sec table start fuel (pointer :: seen) next

/-- The value that a pointer leads to in a table. -/
def follow (sec : Section) (table : List (String × OrRef α)) (pointer : String) :
    Except RefError α :=
  followFrom sec table pointer (table.length + 2) [] pointer

/-- The value itself, or the one that its pointer leads to. -/
def OrRef.deref (look : String → Except RefError α) : OrRef α → Except RefError α
  | .inline v => .ok v
  | .ref p => look p

namespace Resolver

/-- The schema that a pointer leads to. -/
def schemaAt (r : Resolver) (pointer : String) : Except RefError Schema :=
  follow .schemas r.schemas pointer

/-- The parameter that a pointer leads to. -/
def parameterAt (r : Resolver) (pointer : String) : Except RefError Parameter :=
  follow .parameters r.components.parameters pointer

/-- The request body that a pointer leads to. -/
def requestBodyAt (r : Resolver) (pointer : String) : Except RefError RequestBody :=
  follow .requestBodies r.components.requestBodies pointer

/-- The response that a pointer leads to. -/
def responseAt (r : Resolver) (pointer : String) : Except RefError Response :=
  follow .responses r.components.responses pointer

/-- The security scheme with a name. -/
def securityScheme (r : Resolver) (name : String) : Except RefError SecurityScheme :=
  match Entries.find? name r.components.securitySchemes with
  | some s => .ok s
  | none => .error (.unresolved ("#/components/securitySchemes/" ++ name))

/-- The security scheme that a pointer names. -/
def securitySchemeAt (r : Resolver) (pointer : String) : Except RefError SecurityScheme :=
  (Pointer.nameIn .securitySchemes pointer).bind r.securityScheme

/-- What a pointer leads to in the section that it names. -/
def resolve (r : Resolver) (pointer : String) : Except RefError Resolved :=
  (Pointer.target pointer).bind fun (sec, _) =>
    match sec with
    | .schemas => (r.schemaAt pointer).map .schema
    | .parameters => (r.parameterAt pointer).map .parameter
    | .securitySchemes => (r.securitySchemeAt pointer).map .securityScheme
    | .requestBodies => (r.requestBodyAt pointer).map .requestBody
    | .responses => (r.responseAt pointer).map .response

/-- The schema itself, or the one that it refers to. -/
def schema (r : Resolver) : OrRef Schema → Except RefError Schema :=
  OrRef.deref r.schemaAt

/-- The parameter itself, or the one that it refers to. -/
def parameter (r : Resolver) : OrRef Parameter → Except RefError Parameter :=
  OrRef.deref r.parameterAt

/-- The request body itself, or the one that it refers to. -/
def requestBody (r : Resolver) : OrRef RequestBody → Except RefError RequestBody :=
  OrRef.deref r.requestBodyAt

/-- The response itself, or the one that it refers to. -/
def response (r : Resolver) : OrRef Response → Except RefError Response :=
  OrRef.deref r.responseAt

/-- Checks one pointer.  Only the mapping of a discriminator may name a schema without a pointer. -/
def checkPointer (r : Resolver) (kind : PointerKind) (pointer : String) : Except RefError Unit :=
  if pointer.startsWith "#" then (r.resolve pointer).map fun _ => ()
  else if kind = .mapping ∧ Entries.has r.schemas pointer then .ok ()
  else .error (.unresolved pointer)

/-- The visit that checks a pointer and leaves it as it is. -/
def checkVisit (r : Resolver) : Visit (Except RefError) := fun kind p => do
  r.checkPointer kind p
  pure p

/-- Checks the pointers of a schema, and gives the error of the first bad one. -/
def checkSchema (r : Resolver) (s : OrRef Schema) : Except RefError Unit :=
  (Schema.walkRef r.checkVisit s).map fun _ => ()

end Resolver

/-- The resolver over the components of a document. -/
def Document.resolver (d : Document) : Resolver :=
  ⟨d.componentsD, d.componentsD.schemas⟩

/-- Checks the pointers of a document against its own components, and gives the error of the first
bad one. -/
def Document.check (d : Document) : Except RefError Unit :=
  (d.walk d.resolver.checkVisit).map fun _ => ()

end ApiModel
