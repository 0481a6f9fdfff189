import ApiModel.Document.OrRef
import ApiModel.Json.Basic
import ApiModel.Tree.Entries

/-!
# Schemas

The JSON schemas of an OpenAPI document, with the keywords that the library looks at or keeps.
Equality of schemas is decidable.
-/

namespace ApiModel

/-- A type of JSON values. -/
inductive ValueType where
  | string
  | number
  | integer
  | boolean
  | array
  | object
  | null
  deriving DecidableEq, Repr, Inhabited

/-- The types with their names. -/
def ValueType.names : List (String × ValueType) :=
  [("string", string), ("number", number), ("integer", integer), ("boolean", boolean),
    ("array", array), ("object", object), ("null", null)]

/-- The name of a type. -/
def ValueType.name : ValueType → String
  | string => "string"
  | number => "number"
  | integer => "integer"
  | boolean => "boolean"
  | array => "array"
  | object => "object"
  | null => "null"

/-- The value of the `type` keyword. -/
inductive TypeSet where
  /-- One type. -/
  | single (type : ValueType)
  /-- A list of types. -/
  | several (types : List ValueType)
  deriving DecidableEq, Repr, Inhabited

/-- Whether a type is allowed. -/
def TypeSet.contains : TypeSet → ValueType → Bool
  | single t, type => t == type
  | several ts, type => ts.contains type

/-- Where a field of an input travels. -/
inductive FieldLocation where
  | body
  | query
  | path
  | header
  | cookie
  | input
  deriving DecidableEq, Repr, Inhabited

/-- The name of a field location. -/
def FieldLocation.name : FieldLocation → String
  | body => "body"
  | query => "query"
  | path => "path"
  | header => "header"
  | cookie => "cookie"
  | input => "input"

/-- The field locations with their names. -/
def FieldLocation.names : List (String × FieldLocation) :=
  [body, query, path, header, cookie, input].map fun l => (l.name, l)

/-- How the branches of a union are told apart. -/
structure Discriminator where
  /-- The property that holds the tag. -/
  propertyName : String
  /-- Pointers or schema names by tag. -/
  mapping : List (String × String) := []
  deriving DecidableEq, Inhabited

/-- The keywords that bound a value. -/
structure Constraints where
  /-- The least number. -/
  minimum : Option Number.Binary64 := none
  /-- The greatest number. -/
  maximum : Option Number.Binary64 := none
  /-- The least length of a text. -/
  minLength : Option Nat := none
  /-- The greatest length of a text. -/
  maxLength : Option Nat := none
  /-- A regular expression for a text. -/
  pattern : Option String := none
  /-- The least length of a list. -/
  minItems : Option Nat := none
  /-- The greatest length of a list. -/
  maxItems : Option Nat := none
  /-- Whether the items of a list differ. -/
  uniqueItems : Option Bool := none
  deriving DecidableEq, Inhabited

/-- The value of the `additionalProperties` keyword. -/
inductive Additional (α : Type) where
  /-- Whether there may be any. -/
  | allowed (b : Bool)
  /-- What their values look like. -/
  | schema (s : OrRef α)
  deriving DecidableEq, Inhabited

/-- A schema. -/
structure Schema where
  /-- The allowed types. -/
  type : Option TypeSet := none
  /-- The format of a value. -/
  format : Option String := none
  /-- A name. -/
  title : Option String := none
  /-- An explanation. -/
  description : Option String := none
  /-- The value that stands for a missing one. -/
  default : Option Json := none
  /-- Whether null is allowed. -/
  nullable : Option Bool := none
  /-- The schemas of the properties. -/
  properties : List (String × OrRef Schema) := []
  /-- The names of the properties that must be there. -/
  required : List String := []
  /-- What other properties there may be. -/
  additionalProperties : Option (Additional Schema) := none
  /-- The schema of the items. -/
  items : Option (OrRef Schema) := none
  /-- Schemas that all hold. -/
  allOf : List (OrRef Schema) := []
  /-- Schemas of which exactly one holds. -/
  oneOf : List (OrRef Schema) := []
  /-- Schemas of which at least one holds. -/
  anyOf : List (OrRef Schema) := []
  /-- How the branches of a union are told apart. -/
  discriminator : Option Discriminator := none
  /-- The allowed values. -/
  enum : List Json := []
  /-- The only allowed value. -/
  const : Option Json := none
  /-- Whether the value is only sent by the server. -/
  readOnly : Option Bool := none
  /-- Whether the value is only sent by the client. -/
  writeOnly : Option Bool := none
  /-- An example value. -/
  sample : Option Json := none
  /-- Bounds. -/
  constraints : Constraints := {}
  /-- Where each field of a synthesized input travels. -/
  fieldLocations : List (String × FieldLocation) := []
  deriving Inhabited

namespace Schema

/-- Where the pointers to component schemas begin. -/
def pointerPrefix : String :=
  "#/components/schemas/"

/-- The reference to a component schema. -/
def reference (name : String) : OrRef Schema :=
  .ref (pointerPrefix ++ name)

/-- The schema of any object. -/
def emptyObject : Schema :=
  { type := some (.single .object) }

/-- Whether a schema describes objects: by its type, or without one by its properties. -/
def isObjectLike (s : Schema) : Bool :=
  match s.type with
  | some types => types.contains .object
  | none => !s.properties.isEmpty || s.additionalProperties.isSome

/-- Whether a schema describes lists: by its type, or without one by its items. -/
def isArray (s : Schema) : Bool :=
  match s.type with
  | some types => types.contains .array
  | none => s.items.isSome

/-- The keywords that hold no schemas. -/
def plain (s : Schema) :=
  (s.type, s.format, s.title, s.description, s.default, s.nullable, s.required, s.discriminator,
    s.enum, s.const, s.readOnly, s.writeOnly, s.sample, s.constraints, s.fieldLocations)

mutual

/-- Whether two schemas are equal. -/
def same : Schema → Schema → Bool
  | ⟨type, format, title, description, default, nullable, properties, required, additional, items,
      allOf, oneOf, anyOf, discriminator, enum, const, readOnly, writeOnly, sample, constraints,
      locations⟩, t =>
    (type, format, title, description, default, nullable, required, discriminator, enum, const,
        readOnly, writeOnly, sample, constraints, locations) == t.plain &&
      sameFields properties t.properties && sameAdditional additional t.additionalProperties &&
      sameOption items t.items && sameList allOf t.allOf && sameList oneOf t.oneOf &&
      sameList anyOf t.anyOf

/-- Whether two schemas or references are equal. -/
def sameRef : OrRef Schema → OrRef Schema → Bool
  | .ref p, .ref q => p == q
  | .inline s, .inline t => s.same t
  | _, _ => false

/-- Whether two maps of schemas are equal. -/
def sameFields : List (String × OrRef Schema) → List (String × OrRef Schema) → Bool
  | [], [] => true
  | (k, s) :: ss, (l, t) :: ts => k == l && sameRef s t && sameFields ss ts
  | _, _ => false

/-- Whether two optional schemas are equal. -/
def sameOption : Option (OrRef Schema) → Option (OrRef Schema) → Bool
  | none, none => true
  | some s, some t => sameRef s t
  | _, _ => false

/-- Whether two values of `additionalProperties` are equal. -/
def sameAdditional : Option (Additional Schema) → Option (Additional Schema) → Bool
  | none, none => true
  | some (.allowed a), some (.allowed b) => a == b
  | some (.schema s), some (.schema t) => sameRef s t
  | _, _ => false

/-- Whether two lists of schemas are equal. -/
def sameList : List (OrRef Schema) → List (OrRef Schema) → Bool
  | [], [] => true
  | s :: ss, t :: ts => sameRef s t && sameList ss ts
  | _, _ => false

end

/-- Two schemas are compared correctly if their parts are. -/
theorem same_iff_of_parts (s t : Schema)
    (properties : ∀ ts, sameFields s.properties ts = true ↔ s.properties = ts)
    (additional : ∀ a, sameAdditional s.additionalProperties a = true ↔
      s.additionalProperties = a)
    (items : ∀ i, sameOption s.items i = true ↔ s.items = i)
    (allOf : ∀ ts, sameList s.allOf ts = true ↔ s.allOf = ts)
    (oneOf : ∀ ts, sameList s.oneOf ts = true ↔ s.oneOf = ts)
    (anyOf : ∀ ts, sameList s.anyOf ts = true ↔ s.anyOf = ts) :
    s.same t = true ↔ s = t := by
  cases s
  cases t
  simp only [same, plain, properties, additional, items, allOf, oneOf, anyOf, Bool.and_eq_true,
    beq_iff_eq, Prod.mk.injEq, mk.injEq]
  constructor <;> intro h <;> simp only [h, and_self]

mutual

theorem same_iff : ∀ s t : Schema, s.same t = true ↔ s = t
  | ⟨a, b, c, d, e, f, properties, g, additional, items, allOf, oneOf, anyOf, h, i, j, k, l, m, n,
      o⟩, t =>
    same_iff_of_parts
      ⟨a, b, c, d, e, f, properties, g, additional, items, allOf, oneOf, anyOf, h, i, j, k, l, m, n,
        o⟩ t (sameFields_iff properties) (sameAdditional_iff additional) (sameOption_iff items)
      (sameList_iff allOf) (sameList_iff oneOf) (sameList_iff anyOf)

theorem sameRef_iff : ∀ s t : OrRef Schema, sameRef s t = true ↔ s = t
  | .ref p, t => by cases t <;> simp [sameRef]
  | .inline s, t => by cases t <;> simp [sameRef, same_iff s]

theorem sameFields_iff : ∀ s t : List (String × OrRef Schema), sameFields s t = true ↔ s = t
  | [], t => by cases t <;> simp [sameFields]
  | (k, s) :: ss, t => by
    rcases t with _ | ⟨⟨l, t⟩, ts⟩ <;>
      simp [sameFields, sameRef_iff s, sameFields_iff ss, and_assoc]

theorem sameOption_iff : ∀ s t : Option (OrRef Schema), sameOption s t = true ↔ s = t
  | none, t => by cases t <;> simp [sameOption]
  | some s, t => by cases t <;> simp [sameOption, sameRef_iff s]

theorem sameAdditional_iff :
    ∀ s t : Option (Additional Schema), sameAdditional s t = true ↔ s = t
  | none, t => by cases t <;> simp [sameAdditional]
  | some (.allowed a), t => by rcases t with _ | ⟨_ | _⟩ <;> simp [sameAdditional]
  | some (.schema s), t => by rcases t with _ | ⟨_ | _⟩ <;> simp [sameAdditional, sameRef_iff s]

theorem sameList_iff : ∀ s t : List (OrRef Schema), sameList s t = true ↔ s = t
  | [], t => by cases t <;> simp [sameList]
  | s :: ss, t => by cases t <;> simp [sameList, sameRef_iff s, sameList_iff ss]

end

end Schema

instance : DecidableEq Schema := fun s t =>
  decidable_of_iff _ (Schema.same_iff s t)

/-- The name of the component schema that a reference gives, as it is written. -/
def OrRef.schemaName? (s : OrRef Schema) : Option String :=
  s.pointer?.bind fun p =>
    if p.startsWith Schema.pointerPrefix then
      some (String.ofList (p.toList.drop Schema.pointerPrefix.length))
    else none

end ApiModel
