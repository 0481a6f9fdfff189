import ApiModel.Document.Schema

/-!
# Alike schemas

Two schemas are alike when they say the same: their maps have the same entries in any order, and
their numbers compare as numbers do, so that both zeros are alike and what is no number is like
nothing.
-/

namespace ApiModel

variable {α : Type}

/-- Whether two numbers compare as equal. -/
def Number.Binary64.alike : Number.Binary64 → Number.Binary64 → Bool
  | .finite n m, .finite k l => m == l && (n == k || m.mantissa == 0)
  | .infinite n, .infinite k => n == k
  | _, _ => false

/-- Whether two optional values are both missing or alike. -/
def alikeOption (alike : α → α → Bool) : Option α → Option α → Bool
  | none, none => true
  | some a, some b => alike a b
  | _, _ => false

/-- Whether two maps have alike entries in any order. -/
def alikeEntries (alike : α → α → Bool) (as bs : List (String × α)) : Bool :=
  as.length == bs.length && as.all fun (k, a) => (Entries.find? k bs).any (alike a)

/-- Whether two number values compare as equal; a whole number is like no other. -/
def Json.Number.alike : Json.Number → Json.Number → Bool
  | .int i, .int j => i == j
  | .float x, .float y => x.alike y
  | _, _ => false

namespace Json

mutual

/-- Whether two free-form values are alike; their members are in the order of their names. -/
def alike : Json → Json → Bool
  | null, null => true
  | bool a, bool b => a == b
  | number a, number b => a.alike b
  | string a, string b => a == b
  | array a, array b => alikeItems a b
  | object a, object b => alikeMembers a b
  | _, _ => false

/-- Whether two lists of values are alike. -/
def alikeItems : List Json → List Json → Bool
  | [], [] => true
  | a :: as, b :: bs => a.alike b && alikeItems as bs
  | _, _ => false

/-- Whether two lists of members are alike. -/
def alikeMembers : List (String × Json) → List (String × Json) → Bool
  | [], [] => true
  | (k, a) :: as, (l, b) :: bs => k == l && a.alike b && alikeMembers as bs
  | _, _ => false

end

end Json

/-- Whether two discriminators are alike. -/
def Discriminator.alike (d e : Discriminator) : Bool :=
  d.propertyName == e.propertyName && alikeEntries (· == ·) d.mapping e.mapping

/-- Whether two groups of bounds are alike. -/
def Constraints.alike (c d : Constraints) : Bool :=
  alikeOption Number.Binary64.alike c.minimum d.minimum &&
    alikeOption Number.Binary64.alike c.maximum d.maximum &&
    { c with minimum := none, maximum := none } == { d with minimum := none, maximum := none }

namespace Schema

/-- The keywords whose values are alike only when they are equal. -/
def exact (s : Schema) :=
  (s.type, s.format, s.title, s.description, s.nullable, s.required, s.readOnly, s.writeOnly)

/-- Whether the keywords that hold no schemas are alike. -/
def alikePlain (s t : Schema) : Bool :=
  s.exact == t.exact && alikeOption Json.alike s.default t.default &&
    alikeOption Discriminator.alike s.discriminator t.discriminator &&
    Json.alikeItems s.enum t.enum && alikeOption Json.alike s.const t.const &&
    alikeOption Json.alike s.sample t.sample && s.constraints.alike t.constraints &&
    alikeEntries (· == ·) s.fieldLocations t.fieldLocations

mutual

/-- Whether two schemas are alike. -/
def alike : Schema → Schema → Bool
  | ⟨type, format, title, description, default, nullable, properties, required, additional, items,
      allOf, oneOf, anyOf, discriminator, enum, const, readOnly, writeOnly, sample, constraints,
      locations⟩, t =>
    alikePlain
        { type, format, title, description, default, nullable, required, discriminator, enum,
          const, readOnly, writeOnly, sample, constraints, fieldLocations := locations } t &&
      properties.length == t.properties.length && alikeFields properties t.properties &&
      alikeAdditional additional t.additionalProperties && alikeItems items t.items &&
      alikeBranches allOf t.allOf && alikeBranches oneOf t.oneOf && alikeBranches anyOf t.anyOf

/-- Whether two schemas or references are alike. -/
def alikeRef : OrRef Schema → OrRef Schema → Bool
  | .ref p, .ref q => p == q
  | .inline s, .inline t => s.alike t
  | _, _ => false

/-- Whether every property is like the one of its name. -/
def alikeFields : List (String × OrRef Schema) → List (String × OrRef Schema) → Bool
  | [], _ => true
  | (k, s) :: rest, ts => (Entries.find? k ts).any (alikeRef s) && alikeFields rest ts

/-- Whether two schemas of items are alike. -/
def alikeItems : Option (OrRef Schema) → Option (OrRef Schema) → Bool
  | none, none => true
  | some s, some t => alikeRef s t
  | _, _ => false

/-- Whether two values of `additionalProperties` are alike. -/
def alikeAdditional : Option (Additional Schema) → Option (Additional Schema) → Bool
  | none, none => true
  | some (.allowed a), some (.allowed b) => a == b
  | some (.schema s), some (.schema t) => alikeRef s t
  | _, _ => false

/-- Whether two lists of schemas are alike. -/
def alikeBranches : List (OrRef Schema) → List (OrRef Schema) → Bool
  | [], [] => true
  | s :: ss, t :: ts => alikeRef s t && alikeBranches ss ts
  | _, _ => false

end

end Schema

end ApiModel
