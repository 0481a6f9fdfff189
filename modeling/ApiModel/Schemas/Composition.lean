import ApiModel.Schemas.Union

/-!
# Compositions

The shape of an `allOf` schema: its branches are merged in their order, each before what the schema
itself says, and a later property replaces an earlier one of the same name.  A branch that is
reached twice is merged twice, but a reference on the way down to it is not followed again.  So the
depth of references is bounded by the number of references that stand in `allOf`.
-/

namespace ApiModel

/-- The merged shape of a composition. -/
structure Shape where
  /-- The properties. -/
  properties : List (String × OrRef Schema) := []
  /-- The names of the properties that must be there. -/
  required : List String := []
  /-- The unions among the branches, no two of them alike. -/
  unions : List VariantSet := []
  deriving DecidableEq

namespace Shape

/-- Adds a union unless there is one like it. -/
def addUnion (s : Shape) : Option VariantSet → Shape
  | none => s
  | some u => if s.unions.any (·.alike u) then s else { s with unions := s.unions ++ [u] }

/-- Adds properties, each in the place of an earlier one of its name. -/
def addProperties (s : Shape) (properties : List (String × OrRef Schema)) : Shape :=
  { s with
    properties := properties.foldl (fun ps (name, p) => Entries.insert name p ps) s.properties }

/-- Adds the names of required properties that are not there yet. -/
def addRequired (s : Shape) (names : List String) : Shape :=
  { s with
    required := names.foldl (fun rs n => if n ∈ rs then rs else rs ++ [n]) s.required }

/-- Adds what a schema itself says. -/
def addOwn (r : Resolver) (schema : Schema) (s : Shape) : Except RefError Shape := do
  let u ← VariantSet.ofSchema r schema
  return ((s.addUnion u).addProperties schema.properties).addRequired schema.required

/-- The shape whose required names are all properties. -/
def restrict (s : Shape) : Shape :=
  { s with required := s.required.filter (Entries.has s.properties ·) }

end Shape

namespace Composition

mutual

/-- The pointers that stand in `allOf`, also in that of inline branches. -/
def pointers : Schema → List String
  | ⟨_, _, _, _, _, _, _, _, _, _, allOf, _, _, _, _, _, _, _, _, _, _⟩ => pointersOfList allOf

/-- The pointers of a branch. -/
def pointersOfRef : OrRef Schema → List String
  | .ref p => [p]
  | .inline s => pointers s

/-- The pointers of branches. -/
def pointersOfList : List (OrRef Schema) → List String
  | [] => []
  | s :: rest => pointersOfRef s ++ pointersOfList rest

end

/-- How references are followed: the pointers on the way down, the next pointer, and the shape so
far. -/
abbrev Descend := List String → String → Shape → Except RefError Shape

mutual

/-- Merges a schema into a shape. -/
def mergeSchema (r : Resolver) (descend : Descend) (way : List String) :
    Schema → Shape → Except RefError Shape
  | ⟨type, format, title, description, default, nullable, properties, required, additional, items,
      allOf, oneOf, anyOf, discriminator, enum, const, readOnly, writeOnly, sample, constraints,
      locations⟩, shape => do
    let shape ← mergeBranches r descend way allOf shape
    shape.addOwn r
      ⟨type, format, title, description, default, nullable, properties, required, additional, items,
        allOf, oneOf, anyOf, discriminator, enum, const, readOnly, writeOnly, sample, constraints,
        locations⟩

/-- Merges a branch into a shape. -/
def mergeBranch (r : Resolver) (descend : Descend) (way : List String) :
    OrRef Schema → Shape → Except RefError Shape
  | .ref p, shape => if p ∈ way then .ok shape else descend way p shape
  | .inline s, shape => mergeSchema r descend way s shape

/-- Merges branches into a shape in their order. -/
def mergeBranches (r : Resolver) (descend : Descend) (way : List String) :
    List (OrRef Schema) → Shape → Except RefError Shape
  | [], shape => .ok shape
  | s :: rest, shape => do
    let shape ← mergeBranch r descend way s shape
    mergeBranches r descend way rest shape

end

/-- Merges the schema that a pointer leads to, at most `depth` references deep. -/
def descend (r : Resolver) : Nat → Descend
  | 0, _, _, shape => .ok shape
  | depth + 1, way, pointer, shape => do
    let target ← r.schemaAt pointer
    mergeSchema r (descend r depth) (pointer :: way) target shape

/-- The pointers in the `allOf` of the schemas of a table. -/
def tablePointers (table : List (String × OrRef Schema)) : List String :=
  table.flatMap fun (_, s) => pointersOfRef s

/-- A depth that no merge of a schema reaches. -/
def maxDepth (r : Resolver) (s : Schema) : Nat :=
  (pointers s).length + (tablePointers r.schemas).length

/-- The merged shape of a schema. -/
def merge (r : Resolver) (s : Schema) : Except RefError Shape :=
  (mergeSchema r (descend r (maxDepth r s)) [] s {}).map Shape.restrict

theorem has_of_merge {r : Resolver} {s : Schema} {shape : Shape} (h : merge r s = .ok shape) :
    ∀ name ∈ shape.required, Entries.has shape.properties name = true := by
  rw [merge] at h
  cases hm : mergeSchema r (descend r (maxDepth r s)) [] s {} with
  | error err =>
    rw [hm] at h
    cases h
  | ok whole =>
    rw [hm] at h
    cases h
    exact fun _ hn => (List.mem_filter.1 hn).2

end Composition

end ApiModel
