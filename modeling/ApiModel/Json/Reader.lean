import ApiModel.Json.Number
import ApiModel.Tree.Basic

/-!
# Reading JSON texts

A reader takes characters from the front of a text and gives back what it read and what is left.
`Tree.ofJsonText?` reads a whole text.  Syntax is checked everywhere; what is well formed but has no
value (a number beyond binary64, half a surrogate pair, or nesting of 128 levels) becomes
`Tree.unreadable`.
-/

namespace ApiModel

namespace Json.Reader

/-- What is left after the blanks at the front. -/
def skipBlanks (s : List Char) : List Char :=
  s.dropWhile fun c => c = ' ' ∨ c = '\n' ∨ c = '\t' ∨ c = '\r'

/-- What is left after an expected beginning. -/
def expect? : List Char → List Char → Option (List Char)
  | [], s => some s
  | c :: cs, d :: s => if c = d then expect? cs s else none
  | _ :: _, [] => none

/-- The value of a hexadecimal digit. -/
def hexValue? (c : Char) : Option Nat :=
  let n := c.toNat
  if 0x30 ≤ n ∧ n ≤ 0x39 then some (n - 0x30)
  else if 0x41 ≤ n ∧ n ≤ 0x46 then some (n - 0x37)
  else if 0x61 ≤ n ∧ n ≤ 0x66 then some (n - 0x57)
  else none

/-- The value of four hexadecimal digits. -/
def hexWord? (a b c d : Char) : Option Nat := do
  let a ← hexValue? a
  let b ← hexValue? b
  let c ← hexValue? c
  let d ← hexValue? d
  some (((a * 16 + b) * 16 + c) * 16 + d)

/-- The character of an escape sequence of one letter. -/
def escaped? : Char → Option Char
  | '"' => some '"'
  | '\\' => some '\\'
  | '/' => some '/'
  | 'b' => some '\x08'
  | 'f' => some '\x0c'
  | 'n' => some '\n'
  | 'r' => some '\r'
  | 't' => some '\t'
  | _ => none

/-- The code units of a string up to its closing quote, and what follows the quote.  A character
stands for its code point, and an escape of four digits for those digits. -/
def units? : List Char → Option (List Nat × List Char)
  | [] => none
  | '"' :: rest => some ([], rest)
  | '\\' :: 'u' :: a :: b :: c :: d :: rest => do
    let n ← hexWord? a b c d
    let (ns, left) ← units? rest
    some (n :: ns, left)
  | '\\' :: c :: rest => do
    let c ← escaped? c
    let (ns, left) ← units? rest
    some (c.toNat :: ns, left)
  | c :: rest =>
    if c.toNat < 0x20 ∨ c = '\\' then none
    else do
      let (ns, left) ← units? rest
      some (c.toNat :: ns, left)

/-- The characters of code units: a high surrogate joins the low one after it, and either alone has
no character. -/
def ofUnits? : List Nat → Option (List Char)
  | [] => some []
  | [n] => if 0xD800 ≤ n ∧ n < 0xE000 then none else some [Char.ofNat n]
  | n :: m :: rest =>
    if 0xD800 ≤ n ∧ n < 0xDC00 then
      if 0xDC00 ≤ m ∧ m < 0xE000 then
        (ofUnits? rest).map (Char.ofNat ((n - 0xD800) * 0x400 + (m - 0xDC00) + 0x10000) :: ·)
      else none
    else if 0xDC00 ≤ n ∧ n < 0xE000 then none
    else (ofUnits? (m :: rest)).map (Char.ofNat n :: ·)

/-- A string after its opening quote: its text, if it has one, and what follows it. -/
def string? (s : List Char) : Option (Option String × List Char) := do
  let (ns, rest) ← units? s
  some ((ofUnits? ns).map String.ofList, rest)

/-- The digits at the front of a text. -/
def digits (s : List Char) : List Nat × List Char :=
  ((s.takeWhile Char.isDigit).map fun c => c.toNat - 0x30, s.dropWhile Char.isDigit)

/-- At least one digit. -/
def someDigits? (s : List Char) : Option (List Nat × List Char) :=
  match digits s with
  | ([], _) => none
  | r => some r

/-- A fraction, if one follows. -/
def fraction? : List Char → Option (Option (List Nat) × List Char)
  | '.' :: rest => (someDigits? rest).map fun (ds, left) => (some ds, left)
  | s => some (none, s)

/-- An exponent, if one follows. -/
def exponent? : List Char → Option (Option (Bool × List Nat) × List Char)
  | c :: rest =>
    if c = 'e' ∨ c = 'E' then
      let (down, rest) := match rest with
        | '+' :: rest => (false, rest)
        | '-' :: rest => (true, rest)
        | _ => (false, rest)
      (someDigits? rest).map fun (ds, left) => (some (down, ds), left)
    else some (none, c :: rest)
  | [] => some (none, [])

/-- A number literal: no zero stands before another digit, and a point or an exponent mark is
followed by digits. -/
def literal? (s : List Char) : Option (Literal × List Char) := do
  let (negative, s) := match s with
    | '-' :: rest => (true, rest)
    | _ => (false, s)
  let (whole, s) ← someDigits? s
  if whole.head? = some 0 ∧ whole.length ≠ 1 then none
  let (fraction, s) ← fraction? s
  let (exponent, s) ← exponent? s
  some (⟨negative, whole, fraction, exponent⟩, s)

/-- The deepest level at which a list or map has a value. -/
def maxLevel : Nat := 127

/-- A container at a level. -/
def atLevel (level : Nat) (t : Tree) : Tree :=
  if level ≤ maxLevel then t else .unreadable

/-- A map of read members, which has no value when one of its keys has none. -/
def mapOf (members : List (Option String × Tree)) : Tree :=
  match members.mapM fun (k, v) => k.map fun k => (Tree.text k, v) with
  | some entries => .map true entries
  | none => .unreadable

mutual

/-- A value and what follows it, blanks before it being skipped. `level` counts the containers
around and including a container read here, and `fuel` bounds the recursion. -/
def value? : Nat → Nat → List Char → Option (Tree × List Char)
  | 0, _, _ => none
  | fuel + 1, level, s =>
    match skipBlanks s with
    | [] => none
    | '"' :: rest => do
      let (text, left) ← string? rest
      some ((text.map Tree.text).getD .unreadable, left)
    | '[' :: rest =>
      match skipBlanks rest with
      | ']' :: left => some (atLevel level (.list true []), left)
      | rest => do
        let (items, left) ← items? fuel (level + 1) rest
        some (atLevel level (.list true items), left)
    | '\x7b' :: rest =>
      match skipBlanks rest with
      | '\x7d' :: left => some (atLevel level (.map true []), left)
      | rest => do
        let (members, left) ← members? fuel (level + 1) rest
        some (atLevel level (mapOf members), left)
    | c :: rest =>
      if c = 'n' then (expect? "ull".toList rest).map (Tree.null, ·)
      else if c = 't' then (expect? "rue".toList rest).map (Tree.bool true, ·)
      else if c = 'f' then (expect? "alse".toList rest).map (Tree.bool false, ·)
      else do
        let (l, left) ← literal? (c :: rest)
        some ((l.value?.map Tree.number).getD .unreadable, left)

/-- The items of a list up to its closing bracket. -/
def items? : Nat → Nat → List Char → Option (List Tree × List Char)
  | 0, _, _ => none
  | fuel + 1, level, s => do
    let (v, left) ← value? fuel level s
    match skipBlanks left with
    | ',' :: rest => do
      let (vs, left) ← items? fuel level rest
      some (v :: vs, left)
    | ']' :: rest => some ([v], rest)
    | _ => none

/-- The members of an object up to its closing brace. -/
def members? : Nat → Nat → List Char → Option (List (Option String × Tree) × List Char)
  | 0, _, _ => none
  | fuel + 1, level, s =>
    match skipBlanks s with
    | '"' :: rest => do
      let (key, left) ← string? rest
      match skipBlanks left with
      | ':' :: rest => do
        let (v, left) ← value? fuel level rest
        match skipBlanks left with
        | ',' :: rest => do
          let (ms, left) ← members? fuel level rest
          some ((key, v) :: ms, left)
        | '\x7d' :: rest => some ([(key, v)], rest)
        | _ => none
      | _ => none
    | _ => none

end

end Json.Reader

/-- What a whole JSON text says. -/
def Tree.ofJsonText? (text : String) : Option Tree := do
  let s := text.toList
  let (t, left) ← Json.Reader.value? (2 * s.length + 2) 1 s
  if (Json.Reader.skipBlanks left).isEmpty then some t else none

end ApiModel
