import ApiModel.Yaml.Text

/-!
# Tags

What a tag says about the node that it stands before.  A tag may hold escapes, each for an octet of
a character in UTF-8; `TagText.unescape?` puts the characters together, and `Tag.ofText` tells what
the tag says.
-/

namespace ApiModel.Yaml

/-- The text of a tag.  `none` stands for octets with the form of a character that are none. -/
abbrev TagText := List (Option Char)

/-- The octets of a character in UTF-8, as far as they have been read. -/
structure Octets where
  /-- How many are still to come. -/
  left : Nat := 0
  /-- What those so far say. -/
  value : Nat := 0
  /-- The least code point that needs so many octets. -/
  least : Nat := 0

namespace Octets

/-- The first octet of a character. -/
def first? (n : Nat) : Option Octets :=
  if n < 0x80 then some ⟨0, n, 0⟩
  else if n / 0x20 = 6 then some ⟨1, n % 0x20, 0x80⟩
  else if n / 0x10 = 14 then some ⟨2, n % 0x10, 0x800⟩
  else if n / 8 = 30 then some ⟨3, n % 8, 0x10000⟩
  else none

/-- The octets with one more: the first of a new character when none is to come. -/
def next? (o : Octets) (n : Nat) : Option Octets :=
  match o.left with
  | 0 => first? n
  | left + 1 =>
    if n / 0x40 = 2 then some { o with left, value := 0x40 * o.value + n % 0x40 } else none

/-- The character that the octets say, unless a shorter form says it or there is none. -/
def char? (o : Octets) : Option Char :=
  if o.least ≤ o.value ∧ o.value.isValidChar then some (Char.ofNat o.value) else none

end Octets

namespace TagText

/-- The text of characters. -/
def ofString (s : String) : TagText :=
  s.toList.map some

/-- The characters of a tag with the escapes replaced.  The octets of a character stand together:
`o` are those before. -/
def unescape? (o : Octets) : List Char → Option TagText
  | [] => if o.left = 0 then some [] else none
  | '%' :: a :: b :: rest => do
    let n := 16 * (← Quoted.hexValue? a) + (← Quoted.hexValue? b)
    let o ← o.next? n
    let t ← unescape? o rest
    some (if o.left = 0 then o.char? :: t else t)
  | c :: rest => if c = '%' ∨ o.left ≠ 0 then none else (unescape? {} rest).map (some c :: ·)

/-- The text up to the first null character, which ends it. -/
def untilNull (t : TagText) : TagText :=
  t.takeWhile (· ≠ some '\x00')

end TagText

/-- What a tag says. -/
inductive Tag where
  /-- The node is a truth value. -/
  | bool
  /-- The node is a whole number. -/
  | int
  /-- The node is a number. -/
  | float
  /-- The node is the missing value. -/
  | null
  /-- The node is of a kind that only the text itself knows, by name. -/
  | named (name : String)
  /-- The same, but the name has octets that are no character. -/
  | illegible
  /-- Nothing that counts. -/
  | other
  deriving DecidableEq, Repr

namespace Tag

/-- What the tags of YAML's own types start with. -/
def coreStart : String := "tag:yaml.org,2002:"

/-- The tags of YAML's own types that count. -/
def core : List (String × Tag) :=
  [("bool", bool), ("int", int), ("float", float), ("null", null)]

/-- What a tag with a text says.  An exclamation mark before a name makes it the text's own, and
stands for itself when no name follows. -/
def ofText (t : TagText) : Tag :=
  match t.mapM id with
  | some ['!'] => named "!"
  | some ('!' :: name) => named (String.ofList name)
  | some s =>
    let s := String.ofList s
    match core.find? fun (name, _) => s = coreStart ++ name with
    | some (_, tag) => tag
    | none => other
  | none => if t.head? = some (some '!') then illegible else other

/-- Whether a tag names a kind that only the text itself knows. -/
def isNamed : Tag → Bool
  | named _ => true
  | _ => false

end Tag

end ApiModel.Yaml
