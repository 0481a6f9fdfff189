import ApiModel.Tree.Outline
import ApiModel.Tree.Record
import ApiModel.Yaml.Node

/-!
# Reading YAML texts

`Tree.ofYamlText?` reads a whole text as far as an outline says.  An alias stands for a copy of the
node that it refers to; a node that refers to itself nests without end, and so has a part without a
value, as has every part nested more than 128 levels.  The number of copies is limited to a hundred
per event of the text.
-/

namespace ApiModel

namespace Yaml

/-- The deepest level at which a list or mapping has a value. -/
def maxLevel : Nat := 128

/-- A tree under a tag. -/
def withTag (tag : Option Tag) (t : Tree) : Tree :=
  match tag with
  | some tag => .tagged tag t
  | none => t

/-- The tree of a scalar.  One without quotes is open, and so is a literal block whose tag and text
are those of a truth value. -/
def scalarTree (tag : Option Tag) (style : Style) (text : String) : Tree :=
  let isBool := style = .literal ∧ tag = some .bool ∧ (Scalar.bool? text).isSome
  withTag tag (if style = .plain ∨ isBool then .bare text else .text text)

/-- The node that a node stands for, unless there have been too many aliases.  The state is how many
more may be replaced. -/
def Node.target? (anchored : List (Nat × Node)) : Node → StateM Nat (Option Node)
  | .alias n => do
    match ← get with
    | 0 => return none
    | copies + 1 =>
      set copies
      return anchored.lookup n
  | node => return some node

/-- The tree of a node as far as an outline says, what lies outside it being without a value.
The first number is how many more levels have a value. -/
def Node.toTree (anchored : List (Nat × Node)) : Nat → Outline → Node → StateM Nat Tree
  | 0, _, node => do
    match ← node.target? anchored with
    | some (.scalar tag style text) => return scalarTree tag style text
    | _ => return .unreadable
  | levels + 1, outline, node => do
    match ← node.target? anchored with
    | some (.scalar tag style text) => return scalarTree tag style text
    | some (.list tag items) =>
      return withTag tag (.list false (← items.mapM (Node.toTree anchored levels outline.item)))
    | some (.map tag entries) =>
      return withTag tag (.map false (← entries.mapM fun (k, v) => do
        let k ← Node.toTree anchored levels .whole k
        match outline.value? k.string? with
        | some outline => return (k, ← Node.toTree anchored levels outline v)
        | none => return (k, .unreadable)))
    | _ => return .unreadable

/-- The tree of a document as far as an outline says; an empty one reads as an empty scalar. -/
def Document.toTree (d : Document) (outline : Outline) : Tree :=
  match d.root with
  | some root => (root.toTree d.anchored maxLevel outline |>.run (100 * d.events)).1
  | none => .bare ""

end Yaml

/-- What a whole YAML text says, as far as an outline goes. -/
def Tree.ofYamlText? (outline : Outline) (text : String) : Option Tree := do
  let tokens ← Yaml.Token.ofText? text
  let document ← Yaml.Document.ofTokens? tokens
  some (document.toTree outline)

end ApiModel
