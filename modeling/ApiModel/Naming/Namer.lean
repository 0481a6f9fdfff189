import ApiModel.Document.Operation
import ApiModel.Naming.Name
import ApiModel.Tree.Entries

/-!
# Names of operations

A `Namer` gives each operation a name that no earlier one has: the alias or the local part of its
id, the whole id, the name of its route, or else the first of these with the least number from two
on.
-/

namespace ApiModel

/-- Where the names of operations come from. -/
inductive NamingStrategy where
  /-- From the operation ids, and from the routes of operations that have none. -/
  | operationId
  /-- From the routes. -/
  | route
  deriving DecidableEq, Repr, Inhabited

/-- What decides the names of operations. -/
structure Namer where
  /-- Where names come from. -/
  strategy : NamingStrategy := .operationId
  /-- Other names for operation ids and for names. -/
  aliases : List (String × String) := []
  /-- The names that were given. -/
  taken : List String := []
  deriving Inhabited

namespace Namer

/-- The operation id that counts. -/
def explicitId? (n : Namer) (id : Option String) : Option String :=
  match n.strategy with
  | .operationId => id
  | .route => none

/-- The texts that a name may be made from, the best first. -/
def proposals (n : Namer) (method : Method) (path : String) (id : Option String) : List String :=
  let route := routeName method path
  let id := n.explicitId? id
  let primary := (id.bind OperationId.localName?).getD route
  let aliased := (id.bind (Entries.find? · n.aliases)) <|> Entries.find? primary n.aliases
  aliased.getD primary :: (id.bind OperationId.fullName?).toList ++ [route]

/-- The names that an operation may get without a number. -/
def candidates (n : Namer) (method : Method) (path : String) (id : Option String) : List String :=
  (n.proposals method path id).map Name.camelOf

/-- The name with the least number from two on that is not taken. -/
def numbered (taken : List String) (base : String) : String :=
  match (List.range' 2 (taken.length + 1)).find? (fun k => base ++ toString k ∉ taken) with
  | some k => base ++ toString k
  | none => base

/-- The first candidate that is not taken, or else the first one with a number. -/
def choose (taken candidates : List String) : String :=
  match candidates.find? (· ∉ taken) with
  | some name => name
  | none => numbered taken (candidates.head?.getD "")

/-- Gives an operation a name. -/
def assign (n : Namer) (method : Method) (path : String) (id : Option String) : String × Namer :=
  let name := choose n.taken (n.candidates method path id)
  (name, { n with taken := name :: n.taken })

end Namer

end ApiModel
