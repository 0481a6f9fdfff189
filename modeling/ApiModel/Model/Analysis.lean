import ApiModel.Endpoint.Paging
import ApiModel.Schemas.Composition
import ApiModel.Schemas.Registry

/-!
# Analysis of named schemas

The variants of all named unions, the shapes of all named compositions, and how endpoints are paged.
A named schema that is a reference is left to the schema that it refers to.
-/

namespace ApiModel

/-- What is found out about named schemas. -/
structure Analysis where
  /-- The variants of unions. -/
  unions : List (String × VariantSet) := []
  /-- The shapes of compositions. -/
  compositions : List (String × Shape) := []
  deriving DecidableEq

namespace Analysis

/-- What is found out about one named schema. -/
def ofSchema (r : Resolver) (name : String) (s : OrRef Schema) : Except RefError Analysis :=
  match s with
  | .ref _ => .ok {}
  | .inline s =>
    match Kind.ofSchema s with
    | .union kind branches =>
      (VariantSet.ofBranches r kind branches s.discriminator).map fun u => { unions := [(name, u)] }
    | .composition _ =>
      (Composition.merge r s).map fun shape => { compositions := [(name, shape)] }
    | _ => .ok {}

/-- What is found out about named schemas, or the first error. -/
def ofEntries (r : Resolver) : List (String × OrRef Schema) → Except RefError Analysis
  | [] => .ok {}
  | (name, s) :: rest => do
    let one ← ofSchema r name s
    let others ← ofEntries r rest
    return ⟨one.unions ++ others.unions, one.compositions ++ others.compositions⟩

/-- How endpoints are paged, by name. -/
def paging (rules : PagingRules) (r : Resolver) (es : List Endpoint) :
    List (String × PagingHint) :=
  Entries.ofPairs (es.map fun e => (e.canonicalName, rules.infer r e))

end Analysis

end ApiModel
