import ApiModel.Document.Alike
import ApiModel.Resolver
import ApiModel.Schemas.Kind

/-!
# Unions

The variants of a `oneOf` or `anyOf` schema.  When a discriminator tells them apart, each variant
has the tag that its mapping gives it, or else its title, or else the name that it refers to.
-/

namespace ApiModel

/-- A branch of a union. -/
structure Variant where
  /-- The value of the discriminator for this branch. -/
  tag : Option String
  /-- What the branch looks like. -/
  schema : OrRef Schema
  deriving DecidableEq

/-- Whether two branches are alike. -/
def Variant.alike (v w : Variant) : Bool :=
  v.tag == w.tag && Schema.alikeRef v.schema w.schema

/-- The branches of a union. -/
structure VariantSet where
  /-- The keyword of the union. -/
  kind : UnionKind
  /-- The property that tells the branches apart. -/
  property : Option String
  /-- The branches in their order. -/
  variants : List Variant
  deriving DecidableEq

namespace VariantSet

/-- Whether a property tells the branches apart. -/
def isDiscriminated (u : VariantSet) : Bool :=
  u.property.isSome

/-- Whether two lists of branches are alike. -/
def alikeVariants : List Variant → List Variant → Bool
  | [], [] => true
  | v :: vs, w :: ws => v.alike w && alikeVariants vs ws
  | _, _ => false

/-- Whether two unions are alike. -/
def alike (u w : VariantSet) : Bool :=
  u.kind == w.kind && u.property == w.property && alikeVariants u.variants w.variants

/-- The first branch with a tag. -/
def variant? (u : VariantSet) (tag : String) : Option Variant :=
  u.variants.find? (·.tag == some tag)

end VariantSet

namespace Discriminator

/-- Whether the target of a mapping means a branch with a pointer and the schema name in it. -/
def targets (pointer : String) (name : Option String) (target : String) : Bool :=
  target == pointer || (!target.startsWith "#" && some target == name)

/-- The tag that the mapping gives a branch. -/
def mappedTag? (d : Discriminator) (branch : OrRef Schema) : Option String :=
  branch.pointer?.bind fun p =>
    (d.mapping.find? fun (_, target) => targets p branch.schemaName? target).map (·.1)

/-- The tag of a branch. -/
def tagOf (d : Discriminator) (r : Resolver) (branch : OrRef Schema) :
    Except RefError (Option String) :=
  match d.mappedTag? branch with
  | some tag => .ok (some tag)
  | none => (r.schema branch).map fun s => s.title <|> branch.schemaName?

end Discriminator

namespace VariantSet

/-- The variant of one branch. -/
def variantOf (r : Resolver) (d : Option Discriminator) (branch : OrRef Schema) :
    Except RefError Variant :=
  match d with
  | some d => (d.tagOf r branch).map (⟨·, branch⟩)
  | none => .ok ⟨none, branch⟩

/-- The variants of branches, or the error of the first that fails. -/
def variantsOf (r : Resolver) (d : Option Discriminator) :
    List (OrRef Schema) → Except RefError (List Variant)
  | [] => .ok []
  | branch :: rest => do
    let v ← variantOf r d branch
    let vs ← variantsOf r d rest
    return v :: vs

/-- The variants of a union. -/
def ofBranches (r : Resolver) (kind : UnionKind) (branches : List (OrRef Schema))
    (d : Option Discriminator) : Except RefError VariantSet :=
  (variantsOf r d branches).map (⟨kind, d.map (·.propertyName), ·⟩)

/-- The variants of a schema, if it is a union. -/
def ofSchema (r : Resolver) (s : Schema) : Except RefError (Option VariantSet) :=
  match Kind.ofSchema s with
  | .union kind branches => (ofBranches r kind branches s.discriminator).map some
  | _ => .ok none

end VariantSet

end ApiModel
