import ApiModel.Yaml.Scalar

/-!
# Trees with settled types

Where a value may be one of several kinds, each part must have its type before a kind is tried.
`Tree.typed?` gives every bare scalar the type it has by itself.  It fails on a part that has no
value and on a tag of the text's own.
-/

namespace ApiModel.Tree

/-- The value of a typed scalar, if it has one. -/
def readable? : Tree → Option Tree
  | unreadable => none
  | t => some t

mutual

/-- The tree with a type for every scalar. -/
def typed? : Tree → Option Tree
  | list _ items => (typedItems? items).map (list true)
  | map _ entries => (typedEntries? entries).map (map true)
  | bare s => (Yaml.Scalar.value s).readable?
  | tagged tag v => typedTagged? tag v
  | unreadable => none
  | t => some t

/-- The tree under a tag with a type for every scalar. -/
def typedTagged? (tag : Yaml.Tag) : Tree → Option Tree
  | text s => (Yaml.Scalar.taggedValue? tag false s).bind readable?
  | bare s => (Yaml.Scalar.taggedValue? tag true s).bind readable?
  | list _ items => if tag.isNamed then none else (typedItems? items).map (list true)
  | map _ entries => if tag.isNamed then none else (typedEntries? entries).map (map true)
  | _ => none

/-- Items with a type for every scalar. -/
def typedItems? : List Tree → Option (List Tree)
  | [] => some []
  | t :: rest => do
    let t ← t.typed?
    let rest ← typedItems? rest
    some (t :: rest)

/-- Entries with a type for every scalar. -/
def typedEntries? : List (Tree × Tree) → Option (List (Tree × Tree))
  | [] => some []
  | (k, v) :: rest => do
    let k ← k.typed?
    let v ← v.typed?
    let rest ← typedEntries? rest
    some ((k, v) :: rest)

end

end ApiModel.Tree
