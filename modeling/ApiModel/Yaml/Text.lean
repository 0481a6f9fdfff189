import ApiModel.Yaml.Cursor

/-!
# Texts of scalars

The three ways to write the text of a scalar: plain, between quotes, and as a block of lines.  Plain
and quoted texts are folded: a line break counts as a blank, and an empty line as a line break.
Each reader gives the text and the place after it, or nothing when the text is malformed.
-/

namespace ApiModel.Yaml

/-- What stands between two words of a folded text. -/
structure Gap where
  /-- What it counts as. -/
  text : List Char
  /-- Whether it holds a line break. -/
  broken : Bool

/-- What line breaks count as: a single line feed as a blank, more as the breaks after the first. -/
def fold (first later : List Char) : List Char :=
  if first = ['\n'] then if later = [] then [' '] else later else first ++ later

/-- Reads blanks and line breaks.  `broken` says whether a line break has been read, `spaces` holds
the blanks before it, `first` it and `later` the breaks after it.  On a new line a tab left of
column `indent` is refused. -/
def gap? (indent : Nat) :
    Nat → Bool → List Char → List Char → List Char → Cursor → Option (Gap × Cursor)
  | 0, broken, spaces, first, later, c =>
    some (⟨if broken then fold first later else spaces, broken⟩, c)
  | fuel + 1, broken, spaces, first, later, c =>
    match c.rest with
    | [] => gap? indent 0 broken spaces first later c
    | ch :: _ =>
      if isSpace ch then
        if broken then
          if ch = '\t' ∧ c.column < indent then none
          else gap? indent fuel broken spaces first later (c.skip 1)
        else gap? indent fuel broken (spaces ++ [ch]) first later (c.skip 1)
      else if isBreak ch then
        let (b, c) := c.takeBreak
        if broken then gap? indent fuel true [] first (later ++ b) c
        else gap? indent fuel true [] b later c
      else gap? indent 0 broken spaces first later c

namespace Plain

/-- The characters that end a plain word inside brackets. -/
def isFlowMark (c : Char) : Bool :=
  c = ',' || c = '[' || c = ']' || c = '\x7b' || c = '\x7d'

/-- The characters of a word of a plain text, after those in `word`, last one first.  A colon before
a gap ends it, and inside brackets a mark ends it and a colon may not stand before one. -/
def word? (flow : Bool) (word : List Char) : List Char → Option (List Char)
  | [] => some word.reverse
  | ch :: rest =>
    if isSpace ch ∨ isBreak ch then some word.reverse
    else if flow ∧ ch = ':' ∧ rest.head?.any (fun d => isFlowMark d || d = '?') then none
    else if (ch = ':' ∧ atGap rest) ∨ (flow ∧ isFlowMark ch) then some word.reverse
    else word? flow (ch :: word) rest

/-- Reads the words of a plain text with the gaps between them.  `text` is what was read, last
character first, and `pending` the gap before the next word, which counts only if that word is
there. -/
def words? (flow : Bool) (indent : Nat) :
    Nat → List Char → Gap → Cursor → Option (List Char × Bool × Cursor)
  | 0, _, _, _ => none
  | fuel + 1, text, pending, c =>
    if c.atDocumentMark ∨ c.rest.head? = some '#' then some (text, pending.broken, c)
    else do
      let w ← word? flow [] c.rest
      let (text, pending) :=
        if w.isEmpty then (text, pending)
        else (w.reverseAux (pending.text.reverseAux text), ⟨[], false⟩)
      let c := c.skip w.length
      match c.rest with
      | [] => some (text, pending.broken, c)
      | ch :: _ =>
        if isSpace ch ∨ isBreak ch then
          let (pending, c) ← gap? indent c.steps false [] [] [] c
          if !flow ∧ c.column < indent then some (text, pending.broken, c)
          else words? flow indent fuel text pending c
        else some (text, pending.broken, c)

/-- Reads a plain text, whose later lines reach at least column `indent` outside brackets.  Also
says whether a line break was read after the last word. -/
def read? (flow : Bool) (indent : Nat) (c : Cursor) : Option (List Char × Bool × Cursor) :=
  (words? flow indent c.steps [] ⟨[], false⟩ c).map fun (text, broken, c) =>
    (text.reverse, broken, c)

end Plain

namespace Quoted

/-- The value of a hexadecimal digit. -/
def hexValue? (c : Char) : Option Nat :=
  let n := c.toNat
  if 0x30 ≤ n ∧ n ≤ 0x39 then some (n - 0x30)
  else if 0x41 ≤ n ∧ n ≤ 0x46 then some (n - 0x37)
  else if 0x61 ≤ n ∧ n ≤ 0x66 then some (n - 0x57)
  else none

/-- The character with a code point of `count` hexadecimal digits. -/
def codePoint? (count : Nat) (s : List Char) : Option Char := do
  let ds ← (s.take count).mapM hexValue?
  let n := ds.foldl (fun n d => 16 * n + d) 0
  if ds.length = count ∧ n.isValidChar then some (Char.ofNat n) else none

/-- The character after a backslash in a double quoted text. -/
def escaped? : Char → Option Char
  | '0' => some '\x00'
  | 'a' => some '\x07'
  | 'b' => some '\x08'
  | 't' => some '\t'
  | '\t' => some '\t'
  | 'n' => some '\n'
  | 'v' => some '\x0b'
  | 'f' => some '\x0c'
  | 'r' => some '\r'
  | 'e' => some '\x1b'
  | ' ' => some ' '
  | '"' => some '"'
  | '/' => some '/'
  | '\\' => some '\\'
  | 'N' => some '\x85'
  | '_' => some '\xa0'
  | 'L' => some '\u2028'
  | 'P' => some '\u2029'
  | _ => none

/-- How many digits an escape by code point has. -/
def escapeWidth? : Char → Option Nat
  | 'x' => some 2
  | 'u' => some 4
  | 'U' => some 8
  | _ => none

/-- Reads the characters up to a blank, a line break or the closing quote, and puts them before
`text`, last one first.  An escaped line break ends them too, is skipped, and is reported. -/
def run? (single : Bool) : Nat → List Char → Cursor → Option (List Char × Bool × Cursor)
  | 0, text, c => some (text, false, c)
  | fuel + 1, text, c =>
    match c.rest with
    | [] => some (text, false, c)
    | ch :: rest =>
      if isSpace ch ∨ isBreak ch then some (text, false, c)
      else if single then
        if ch = '\'' then
          if rest.head? = some '\'' then run? single fuel ('\'' :: text) (c.skip 2)
          else some (text, false, c)
        else run? single fuel (ch :: text) (c.skip 1)
      else if ch = '"' then some (text, false, c)
      else if ch = '\\' then
        match rest with
        | [] => none
        | e :: digits =>
          if isBreak e then some (text, true, (c.skip 1).takeBreak.2)
          else
            match escapeWidth? e with
            | some width => do
              let d ← codePoint? width digits
              run? single fuel (d :: text) (c.skip (2 + width))
            | none => do
              let d ← escaped? e
              run? single fuel (d :: text) (c.skip 2)
      else run? single fuel (ch :: text) (c.skip 1)

/-- Reads runs with the gaps between them up to the closing quote, last character first. -/
def runs? (single : Bool) : Nat → List Char → Cursor → Option (List Char × Cursor)
  | 0, _, _ => none
  | fuel + 1, text, c =>
    if c.atDocumentMark ∨ c.rest.isEmpty then none
    else do
      let (text, broken, c) ← run? single c.steps text c
      if c.rest.head? = some (if single then '\'' else '"') then some (text, c.skip 1)
      else
        let (g, c) ← gap? 0 c.steps broken [] [] [] c
        runs? single fuel (g.text.reverseAux text) c

/-- Reads a quoted text from its opening quote. -/
def read? (single : Bool) (c : Cursor) : Option (List Char × Cursor) :=
  (runs? single c.steps [] (c.skip 1)).map fun (text, c) => (text.reverse, c)

end Quoted

namespace Block

/-- What happens to the line breaks at the end of a block. -/
inductive Chomping where
  /-- One is kept. -/
  | clip
  /-- None is kept. -/
  | strip
  /-- All are kept. -/
  | keep
  deriving DecidableEq

/-- The chomping mark at the front of a text. -/
def chomping? : List Char → Option Chomping
  | '+' :: _ => some .keep
  | '-' :: _ => some .strip
  | _ => none

/-- The indentation mark at the front of a text; zero is refused by the outer nothing. -/
def increment? : List Char → Option (Option Nat)
  | c :: _ =>
    if c = '0' then none else some (if c.isDigit then some (c.toNat - 0x30) else none)
  | [] => some none

/-- Reads the marks after the sign of a block, in either order. -/
def marks? (c : Cursor) : Option (Chomping × Option Nat × Cursor) := do
  match chomping? c.rest with
  | some chomping =>
    let c := c.skip 1
    let increment ← increment? c.rest
    some (chomping, increment, if increment.isSome then c.skip 1 else c)
  | none =>
    let increment ← increment? c.rest
    match increment with
    | none => some (.clip, none, c)
    | some n =>
      let c := c.skip 1
      match chomping? c.rest with
      | some chomping => some (chomping, some n, c.skip 1)
      | none => some (.clip, some n, c)

/-- Reads the indentation of the next line that is not empty and the line breaks before it.
`indent` is the column where lines begin, or zero when that is still open; `widest` is the widest
indentation met.  Gives the breaks, the widest indentation and the place. -/
def breaks? (indent : Nat) :
    Nat → List Char → Nat → Cursor → Option (List Char × Nat × Cursor)
  | 0, _, _, _ => none
  | fuel + 1, breaks, widest, c =>
    let open? (column : Nat) := indent == 0 || column < indent
    let blanks := (c.rest.takeWhile (· = ' ')).length
    let taken := if indent = 0 then blanks else min blanks (indent - c.column)
    let c := c.skip taken
    let widest := max widest c.column
    match c.rest with
    | [] => some (breaks, widest, c)
    | ch :: _ =>
      if open? c.column ∧ ch = '\t' then none
      else if isBreak ch then
        let (b, c) := c.takeBreak
        breaks? indent fuel (breaks ++ b) widest c
      else some (breaks, widest, c)

/-- Reads the lines of a block and puts their characters before `text`, last one first.  `first` is
the break that ended the last line, `later` are the breaks after it, and `blank` says whether the
last line began with a blank. -/
def lines? (literal : Bool) (indent : Nat) :
    Nat → List Char → List Char → List Char → Bool → Cursor →
      Option (List Char × List Char × List Char × Cursor)
  | 0, _, _, _, _, _ => none
  | fuel + 1, text, first, later, blank, c =>
    match c.rest with
    | [] => some (text, first, later, c)
    | ch :: _ =>
      if c.column ≠ indent then some (text, first, later, c)
      else do
        let space := isSpace ch
        let joint :=
          if !literal ∧ first = ['\n'] ∧ !blank ∧ !space then if later = [] then [' '] else []
          else first
        let (line, c) := c.takeWhile (!isBreak ·)
        let (b, c) := c.takeBreak
        let (later', _, c) ← breaks? indent c.steps [] 0 c
        lines? literal indent fuel ((joint ++ later ++ line).reverseAux text) b later' space c

/-- Reads a block from its sign.  `parent` is the indentation of the block it stands in. -/
def read? (literal : Bool) (parent : Int) (c : Cursor) : Option (List Char × Cursor) := do
  let (chomping, increment, c) ← marks? (c.skip 1)
  let c := (c.takeWhile isSpace).2
  let c := if c.rest.head? = some '#' then (c.takeWhile (!isBreak ·)).2 else c
  if !atLineEnd c.rest then none
  let c := c.takeBreak.2
  let given := match increment with
    | some n => (max parent 0).toNat + n
    | none => 0
  let (later, widest, c) ← breaks? given c.steps [] 0 c
  let indent := if given = 0 then max widest (max (parent + 1).toNat 1) else given
  let (text, first, later, c) ← lines? literal indent c.steps [] [] later false c
  let tail := match chomping with
    | .strip => []
    | .clip => first
    | .keep => first ++ later
  some (text.reverseAux tail, c)

end Block

end ApiModel.Yaml
