/-!
# Places in a YAML text

A `Cursor` is a place in a text: the characters from there on, and the place as a number of bytes in
UTF-8 and as a line and a column.  YAML counts five line breaks; a carriage return and a line feed
are one.
-/

namespace ApiModel.Yaml

/-- Whether a character ends a line. -/
def isBreak (c : Char) : Bool :=
  c = '\n' || c = '\r' || c = '\x85' || c = '\u2028' || c = '\u2029'

/-- Whether a character is a space or a tab. -/
def isSpace (c : Char) : Bool :=
  c = ' ' || c = '\t'

/-- Whether a character may stand in a name: an ASCII letter or digit, a hyphen or an underscore. -/
def isNameChar (c : Char) : Bool :=
  c.isAlphanum || c = '-' || c = '_'

/-- Whether a text may hold a character at all. -/
def isPrintable (c : Char) : Bool :=
  let n := c.toNat
  n == 0x09 || n == 0x0A || n == 0x0D || (0x20 ≤ n && n ≤ 0x7E) || n == 0x85 ||
    (0xA0 ≤ n && n ≤ 0xFFFD) || 0x10000 ≤ n

/-- Whether a text is at its end or at a space, a tab or a line break. -/
def atGap : List Char → Bool
  | [] => true
  | c :: _ => isSpace c || isBreak c

/-- Whether a text is at the end of a line. -/
def atLineEnd : List Char → Bool
  | [] => true
  | c :: _ => isBreak c

/-- How many bytes characters take in UTF-8. -/
def byteCount (cs : List Char) : Nat :=
  cs.foldl (fun n c => n + c.utf8Size) 0

/-- A place in a text. -/
structure Cursor where
  /-- The characters from here on. -/
  rest : List Char
  /-- How many bytes stand before. -/
  index : Nat := 0
  /-- How many lines end before. -/
  line : Nat := 0
  /-- How many characters of this line stand before. -/
  column : Nat := 0
  /-- How many characters the whole text has. -/
  size : Nat := rest.length

namespace Cursor

/-- More steps than there are characters, which is enough for any reader that takes one at a time.
-/
def steps (c : Cursor) : Nat :=
  c.size + 1

/-- The place after `n` characters of this line. -/
def skip (c : Cursor) (n : Nat) : Cursor :=
  { c with
    rest := c.rest.drop n
    index := c.index + byteCount (c.rest.take n)
    column := c.column + n }

/-- The place after the characters at the front that satisfy `p`, all on this line, and those
characters. -/
def takeWhile (c : Cursor) (p : Char → Bool) : List Char × Cursor :=
  let s := c.rest.takeWhile p
  (s, c.skip s.length)

/-- The place after a line break, and the break as it counts in a text. -/
def takeBreak (c : Cursor) : List Char × Cursor :=
  let next (n : Nat) (rest : List Char) : Cursor :=
    { rest, index := c.index + n, line := c.line + 1, size := c.size }
  match c.rest with
  | '\r' :: '\n' :: rest => (['\n'], next 2 rest)
  | b :: rest =>
    if b = '\u2028' || b = '\u2029' then ([b], next b.utf8Size rest)
    else if isBreak b then (['\n'], next b.utf8Size rest)
    else ([], c)
  | [] => ([], c)

/-- Whether a line that starts or ends a document begins here. -/
def atDocumentMark (c : Cursor) : Bool :=
  c.column == 0 &&
    match c.rest with
    | '-' :: '-' :: '-' :: rest => atGap rest
    | '.' :: '.' :: '.' :: rest => atGap rest
    | _ => false

end Cursor

end ApiModel.Yaml
