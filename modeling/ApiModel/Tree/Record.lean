import ApiModel.Tree.Entries
import ApiModel.Tree.Typed

/-!
# Reading trees as types

How each kind of type is read from a tree.  A reader gives nothing when the tree does not fit.  A
bare scalar fits a text as it is written, and an empty one is also the empty list or map.  A record
is read from a map, unknown keys being skipped and a known key given twice refused, or from a
settled list.
-/

namespace ApiModel.Tree

variable {α β : Type}

/-- The tree without its tag. -/
def untagged : Tree → Tree
  | tagged _ t => t
  | t => t

/-- A text. -/
def string? (t : Tree) : Option String :=
  match t.untagged with
  | text s => some s
  | bare s => some s
  | _ => none

/-- A truth value. -/
def bool? (t : Tree) : Option Bool :=
  match t.untagged with
  | bool b => some b
  | bare s => Yaml.Scalar.bool? s
  | _ => none

/-- A number as a binary64. -/
def binary64? : Tree → Option Number.Binary64
  | number (.int i) => some (.ofInt i)
  | number (.float x) => some x
  | _ => none

/-- A whole number that is not negative. -/
def nat? : Tree → Option Nat
  | number (.int i) => if 0 ≤ i then some i.toNat else none
  | _ => none

/-- The items of a list. -/
def items? (t : Tree) : Option (List Tree) :=
  match t.untagged with
  | list _ items => some items
  | bare s => if s = "" then some [] else none
  | _ => none

/-- The entries of a map. -/
def entries? (t : Tree) : Option (List (Tree × Tree)) :=
  match t.untagged with
  | map _ entries => some entries
  | bare s => if s = "" then some [] else none
  | _ => none

/-- A list of values. -/
def list? (read : Tree → Option α) (t : Tree) : Option (List α) := do
  let items ← t.items?
  items.mapM read

/-- An ordered map from names to values. -/
def entriesOf? (read : Tree → Option α) (t : Tree) : Option (List (String × α)) := do
  let entries ← t.entries?
  let pairs ← entries.mapM fun (k, v) => do
    let k ← k.string?
    let v ← read v
    some (k, v)
  some (Entries.ofPairs pairs)

/-- A value or nothing; outer nothing means that the tree does not fit. -/
def optional? (read : Tree → Option α) (t : Tree) : Option (Option α) :=
  match t with
  | null => some none
  | bare s => if s = "" ∨ Yaml.Scalar.isNullWord s then some none else (read t).map some
  | tagged tag (bare s) =>
    if tag = .null then
      if Yaml.Scalar.isNullWord s then some none else none
    else (read t).map some
  | t => (read t).map some

/-- Whether a tree stands for nothing at all. -/
def isUnit : Tree → Bool
  | null => true
  | bare s => s = "" || Yaml.Scalar.isNullWord s
  | _ => false

/-- The choice of a key: its name, or its place among the choices. -/
def choiceOfKey? (choices : List (String × α)) : Tree → Option α
  | text name => Entries.find? name choices
  | number (.int i) => if 0 ≤ i then choices[i.toNat]?.map (·.2) else none
  | _ => none

/-- One of several names: the name as a text, as a tag of nothing, or as the only key of a settled
map from it to nothing, where its place may stand for it. -/
def choice? (choices : List (String × α)) (t : Tree) : Option α :=
  match t with
  | tagged (.named name) v => if v.isUnit then Entries.find? name choices else none
  | map true [(key, v)] => if v.isUnit then choiceOfKey? choices key else none
  | t => t.string?.bind (Entries.find? · choices)

/-- The free-form value of a tree without parts.  A number that JSON cannot write is nothing. -/
def scalarJson? : Tree → Option Json
  | null => some .null
  | bool b => some (.bool b)
  | number (.float x) => some (if x.isFinite then .number (.float x) else .null)
  | number n => some (.number n)
  | text s => some (.string s)
  | _ => none

mutual

/-- A free-form value.  A bare scalar has the type it has by itself, and the members of an object
are ordered by name. -/
def json? : Tree → Option Json
  | list _ items => (jsonItems? items).map .array
  | map _ entries => (jsonMembers? entries).map fun members => .object (Json.sortMembers members)
  | bare s => scalarJson? (Yaml.Scalar.value s)
  | tagged tag v => jsonTagged? tag v
  | t => scalarJson? t

/-- The free-form value under a tag. -/
def jsonTagged? (tag : Yaml.Tag) : Tree → Option Json
  | text s => (Yaml.Scalar.taggedValue? tag false s).bind scalarJson?
  | bare s => (Yaml.Scalar.taggedValue? tag true s).bind scalarJson?
  | list _ items => if tag.isNamed then none else (jsonItems? items).map .array
  | map _ entries =>
    if tag.isNamed then none
    else (jsonMembers? entries).map fun members => .object (Json.sortMembers members)
  | _ => none

/-- Free-form items. -/
def jsonItems? : List Tree → Option (List Json)
  | [] => some []
  | t :: rest => do
    let v ← t.json?
    let vs ← jsonItems? rest
    some (v :: vs)

/-- Free-form members. -/
def jsonMembers? : List (Tree × Tree) → Option (List (String × Json))
  | [] => some []
  | (k, v) :: rest => do
    let k ← k.string?
    let v ← v.json?
    let rest ← jsonMembers? rest
    some ((k, v) :: rest)

end

/-- The fields of a record that were found. -/
structure Record where
  /-- Whether they came as a list in the order of the fields. -/
  positional : Bool
  /-- The values by name. -/
  fields : List (String × Tree)

/-- The field that a key names: an index counts as the name of that field, and an unknown one is
`some none`. -/
def fieldName? (names : List String) (key : Tree) : Option (Option String) :=
  match key with
  | number (.int i) => if 0 ≤ i then some names[i.toNat]? else none
  | key => key.string?.map fun s => if s ∈ names then some s else none

/-- The known fields of a map, or nothing when one is given twice. -/
def fieldsOf? (names : List String) : List (Tree × Tree) → Option (List (String × Tree))
  | [] => some []
  | (k, v) :: rest => do
    let name ← fieldName? names k
    let fields ← fieldsOf? names rest
    match name with
    | none => some fields
    | some name => if Entries.has fields name then none else some ((name, v) :: fields)

/-- Reads a record with the named fields. -/
def record? (names : List String) (t : Tree) : Option Record :=
  match t.untagged with
  | list true items =>
    if items.length ≤ names.length then some ⟨true, names.zip items⟩ else none
  | map _ entries => (fieldsOf? names entries).map (⟨false, ·⟩)
  | bare s => if s = "" then some ⟨false, []⟩ else none
  | _ => none

namespace Record

/-- A field that must be there. -/
def required? (r : Record) (name : String) (read : Tree → Option α) : Option α :=
  (Entries.find? name r.fields).bind read

/-- A field that is nothing when it is missing or null; a positional record must give it. -/
def optional? (r : Record) (name : String) (read : Tree → Option α) : Option (Option α) :=
  match Entries.find? name r.fields with
  | some t => t.optional? read
  | none => if r.positional then none else some none

/-- A field with a default for when it is missing. -/
def getD? (r : Record) (name : String) (read : Tree → Option α) (default : α) : Option α :=
  match Entries.find? name r.fields with
  | some t => read t
  | none => some default

end Record

end ApiModel.Tree
