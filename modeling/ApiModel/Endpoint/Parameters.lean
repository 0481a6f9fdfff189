import ApiModel.Endpoint.Basic
import ApiModel.Resolver

/-!
# Parameters of endpoints

The parameters of a path and of one of its operations are merged.  A later parameter with the name
and location of an earlier one takes its place, so that what an operation says wins over what its
path says.
-/

namespace ApiModel

/-- Puts a value in the place of the first one that it agrees with, or else at the end. -/
def putInPlace {α : Type} (agrees : α → α → Bool) (v : α) : List α → List α
  | [] => [v]
  | w :: rest => if agrees w v then v :: rest else w :: putInPlace agrees v rest

namespace Parameter

/-- The parameter with those in the path being required. -/
def settled (p : Parameter) : Parameter :=
  { p with required := p.isRequired }

/-- Whether two parameters are the same one for a request. -/
def agrees (p q : Parameter) : Bool :=
  p.key == q.key

/-- Merges declared parameters, one after the other, into parameters. -/
def mergeInto (r : Resolver) (merged : List Parameter) :
    List (OrRef Parameter) → Except RefError (List Parameter)
  | [] => .ok merged
  | declared :: rest => do
    let p ← r.parameter declared
    mergeInto r (putInPlace agrees p.settled merged) rest

/-- The parameters of a path with those of an operation. -/
def merge (r : Resolver) (ofPath ofOperation : List (OrRef Parameter)) :
    Except RefError (List Parameter) :=
  mergeInto r [] (ofPath ++ ofOperation)

/-- A parameter as that of an endpoint. -/
def toEndpoint (p : Parameter) : EndpointParameter where
  name := .ofText p.name
  wireName := p.name
  location := p.location
  schema := p.schema
  required := p.isRequired
  description := p.description
  deprecated := p.deprecated.getD false

end Parameter

end ApiModel
