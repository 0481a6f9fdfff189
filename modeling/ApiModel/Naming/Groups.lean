import ApiModel.Naming.Name

/-!
# Groups of operations

Operations are grouped by tag.  The groups are ordered by tag, and a group lists the places of its
operations in their order.
-/

namespace ApiModel

/-- The operations with one tag. -/
structure Group where
  /-- The tag with its casings. -/
  name : Name
  /-- The places of the operations. -/
  members : List Nat
  deriving DecidableEq, Repr

namespace Group

/-- Puts a tag into tags that are ordered, unless it is there. -/
def insertTag (tag : String) : List String → List String
  | [] => [tag]
  | t :: rest =>
    if tag < t then tag :: t :: rest
    else if tag = t then t :: rest
    else t :: insertTag tag rest

/-- The tags in their order, each once. -/
def sortTags (tags : List String) : List String :=
  tags.foldl (fun sorted tag => insertTag tag sorted) []

/-- The places of a tag among tags, counted from `i` on. -/
def placesFrom (tag : String) : Nat → List String → List Nat
  | _, [] => []
  | i, t :: rest =>
    if t = tag then i :: placesFrom tag (i + 1) rest else placesFrom tag (i + 1) rest

/-- The groups of operations with the given tags. -/
def ofTags (tags : List String) : List Group :=
  (sortTags tags).map fun tag => ⟨.ofText tag, placesFrom tag 0 tags⟩

end Group

end ApiModel
