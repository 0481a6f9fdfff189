import ApiModel.Tree.Entries

/-!
# Outlines

How far a reader looks into a tree.  A record has known fields, and a reader passes over the values
of all others, whatever they hold.  So a text that nests or repeats too much there is still read.
-/

namespace ApiModel

/-- How far a reader looks into a tree. -/
inductive Outline where
  /-- Into everything. -/
  | whole
  /-- Into the known fields of a record, each as far as it says. -/
  | record (fields : List (String × Outline))
  /-- Into the items of a list. -/
  | list (item : Outline)
  /-- Into the keys and values of a map. -/
  | map (value : Outline)
  deriving Inhabited

namespace Outline

/-- A record whose known fields are looked into as a whole. -/
def fields (names : List String) : Outline :=
  record (names.map (·, whole))

/-- The names of the known fields in their order. -/
def names : Outline → List String
  | record fields => Entries.keys fields
  | _ => []

/-- How far a reader looks into an item. -/
def item : Outline → Outline
  | list o => o
  | _ => whole

/-- How far a reader looks into the value of a key, or nothing when it passes over it. -/
def value? (o : Outline) (key : Option String) : Option Outline :=
  match o with
  | record fields => key.bind (Entries.find? · fields)
  | map o => some o
  | _ => some whole

end Outline

end ApiModel
