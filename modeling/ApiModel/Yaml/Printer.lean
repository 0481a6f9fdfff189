import ApiModel.Json.Basic
import ApiModel.Yaml.Cursor
import ApiModel.Yaml.Scalar

/-!
# Writing YAML texts

`Json.toYaml` writes a value in block style with two blanks per level; the items of a list in a
mapping stand at the level of its key.  A text is written plain when it reads back as itself, over
lines when it holds line feeds, and otherwise in single quotes, or in double quotes when it holds
what single quotes cannot.
-/

namespace ApiModel.Yaml.Printer

/-- How a text is written. -/
inductive Style where
  | plain
  | single
  | double
  | literal
  deriving DecidableEq, Repr

/-- Whether a character may stand in a text outside double quotes. -/
def isShown (c : Char) : Bool :=
  let n := c.toNat
  n == 0x0A || (0x20 ≤ n && n ≤ 0x7E) || (0xA0 ≤ n && n ≤ 0xFFFD && n != 0xFEFF) || 0x10000 ≤ n

/-- Whether some neighbours in a text satisfy `p`. -/
def anyPair (p : Char → Char → Bool) : List Char → Bool
  | c :: d :: rest => p c d || anyPair p (d :: rest)
  | _ => false

/-- Whether a text starts with a mark that means something at the start of a scalar. -/
def startsWithMark : List Char → Bool
  | '-' :: '-' :: '-' :: _ => true
  | '.' :: '.' :: '.' :: _ => true
  | c :: rest =>
    "#,[]\x7b\x7d&*!|>'\"%@\x60".toList.contains c || (c ∈ ['?', ':', '-'] && atGap rest)
  | [] => false

/-- Whether a text holds a mark that means something inside of a scalar: a colon before a gap, or a
hash after one. -/
def holdsMark (s : List Char) : Bool :=
  s.getLast? == some ':' ||
    anyPair (fun c d => (c == ':' && atGap [d]) || (atGap [c] && d == '#')) s

/-- Whether a text has a space before a line break, or a character that is not shown. -/
def needsEscapes (s : List Char) : Bool :=
  s.any (!isShown ·) || anyPair (fun c d => c == ' ' && isBreak d) s

/-- Whether a text may stand in single quotes. -/
def fitsSingle (s : List Char) : Bool :=
  !needsEscapes s && !anyPair (fun c d => isBreak c && d == ' ') s

/-- Whether a text may be written over lines. -/
def fitsLiteral (s : List Char) : Bool :=
  !needsEscapes s && s.getLast? != some ' '

/-- Whether a text may stand without quotes as far as its characters go. -/
def fitsPlain (s : List Char) : Bool :=
  fitsSingle s && !s.any isBreak && s.head? != some ' ' && s.getLast? != some ' ' &&
    !startsWithMark s && !holdsMark s

/-- Whether a bare scalar would be taken for something else, or for a number by some. -/
def isAmbiguous (s : String) : Bool :=
  match Scalar.value s with
  | .text _ => Scalar.hasLeadingZero s.toList
  | _ => true

/-- How a text is written. -/
def styleOf (s : String) : Style :=
  let cs := s.toList
  if cs.contains '\n' then (if fitsLiteral cs then .literal else .double)
  else if !isAmbiguous s && fitsPlain cs then .plain
  else if fitsSingle cs then .single
  else .double

/-- Blanks. -/
def blanks (n : Nat) : List Char :=
  List.replicate n ' '

/-- Digits of a fixed number, the last `width` ones in base sixteen. -/
def hexDigits : Nat → Nat → List Char
  | 0, _ => []
  | width + 1, n => hexDigits width (n / 16) ++ [(Nat.digitChar (n % 16)).toUpper]

/-- The letter that stands for a character after a backslash. -/
def escapeLetter? (c : Char) : Option Char :=
  [('\x00', '0'), ('\x07', 'a'), ('\x08', 'b'), ('\t', 't'), ('\n', 'n'), ('\x0b', 'v'),
    ('\x0c', 'f'), ('\r', 'r'), ('\x1b', 'e'), ('"', '"'), ('\\', '\\'), ('\x85', 'N'),
    ('\u2028', 'L'), ('\u2029', 'P')].lookup c

/-- A character between double quotes. -/
def doubleQuotedChar (c : Char) : List Char :=
  match escapeLetter? c with
  | some letter => ['\\', letter]
  | none =>
    if isShown c then [c]
    else if c.toNat ≤ 0xFF then '\\' :: 'x' :: hexDigits 2 c.toNat
    else if c.toNat ≤ 0xFFFF then '\\' :: 'u' :: hexDigits 4 c.toNat
    else '\\' :: 'U' :: hexDigits 8 c.toNat

/-- A text between double quotes. -/
def doubleQuoted (s : List Char) : List Char :=
  '"' :: s.flatMap doubleQuotedChar ++ ['"']

/-- The inside of a text in single quotes; after a line break come the blanks of the level. -/
def singleQuotedFrom (level : Nat) (afterBreak : Bool) : List Char → List Char
  | [] => if afterBreak then blanks level else []
  | c :: rest =>
    if isBreak c then c :: singleQuotedFrom level true rest
    else
      (if afterBreak then blanks level else []) ++ (if c = '\'' then ['\'', '\''] else [c]) ++
        singleQuotedFrom level false rest

/-- A text between single quotes. -/
def singleQuoted (level : Nat) (s : List Char) : List Char :=
  '\'' :: singleQuotedFrom level false s ++ ['\'']

/-- The lines of a text that is written over lines; a line that is not empty starts with the blanks
of the level, and the last one ends with a line break. -/
def literalLines (level : Nat) (atStart : Bool) : List Char → List Char
  | [] => if atStart then [] else ['\n']
  | c :: rest =>
    if isBreak c then c :: literalLines level true rest
    else (if atStart then blanks level else []) ++ c :: literalLines level false rest

/-- What stands after the bar of a text that is written over lines: the number of blanks when the
text starts with one, and how its last line breaks are kept. -/
def literalHints (s : List Char) : List Char :=
  let indent := if s.head?.any fun c => c == ' ' || isBreak c then ['2'] else []
  let chomp :=
    match s.reverse with
    | [] => ['-']
    | [c] => if isBreak c then ['+'] else ['-']
    | c :: d :: _ => if !isBreak c then ['-'] else if isBreak d then ['+'] else []
  indent ++ chomp

/-- A text and the end of its last line, at a level. -/
def textLine (level : Nat) (s : String) : List Char :=
  let cs := s.toList
  match styleOf s with
  | .plain => cs ++ ['\n']
  | .single => singleQuoted (level + 2) cs ++ ['\n']
  | .double => doubleQuoted cs ++ ['\n']
  | .literal => '|' :: literalHints cs ++ '\n' :: literalLines (level + 2) true cs

/-- Whether a text may stand before a colon on the same line. -/
def isSimpleKey (s : String) : Bool :=
  !s.toList.any isBreak && s.utf8ByteSize ≤ 128

/-- A key with the colon after it, at a level. -/
def keyText (level : Nat) (s : String) : List Char :=
  if isSimpleKey s then (textLine level s).dropLast ++ [':']
  else '?' :: ' ' :: textLine level s ++ blanks level ++ [':']

mutual

/-- A value after a hyphen, or after a colon that starts a line, at a level. -/
def itemText (level : Nat) : Json → List Char
  | .array [] => " []\n".toList
  | .array (v :: rest) => ' ' :: items (level + 2) (v :: rest)
  | .object [] => " \x7b\x7d\n".toList
  | .object (m :: rest) => ' ' :: members (level + 2) (m :: rest)
  | .null => " null\n".toList
  | .bool true => " true\n".toList
  | .bool false => " false\n".toList
  | .number n => ' ' :: n.text.toList ++ ['\n']
  | .string s => ' ' :: textLine level s

/-- A value after a key on the same line, at the level of the key. -/
def memberText (level : Nat) : Json → List Char
  | .array [] => " []\n".toList
  | .array (v :: rest) => '\n' :: blanks level ++ items level (v :: rest)
  | .object [] => " \x7b\x7d\n".toList
  | .object (m :: rest) => '\n' :: blanks (level + 2) ++ members (level + 2) (m :: rest)
  | .null => " null\n".toList
  | .bool true => " true\n".toList
  | .bool false => " false\n".toList
  | .number n => ' ' :: n.text.toList ++ ['\n']
  | .string s => ' ' :: textLine level s

/-- Items at a level; the blanks before the first one stand already. -/
def items (level : Nat) : List Json → List Char
  | [] => []
  | [v] => '-' :: itemText level v
  | v :: w :: rest => '-' :: itemText level v ++ blanks level ++ items level (w :: rest)

/-- Members at a level; the blanks before the first one stand already. -/
def members (level : Nat) : List (String × Json) → List Char
  | [] => []
  | [(k, v)] =>
    keyText level k ++ if isSimpleKey k then memberText level v else itemText level v
  | (k, v) :: m :: rest =>
    keyText level k ++ (if isSimpleKey k then memberText level v else itemText level v) ++
      blanks level ++ members level (m :: rest)

end

end ApiModel.Yaml.Printer

namespace ApiModel

/-- The YAML text of a value. -/
def Json.toYaml (v : Json) : String :=
  match v with
  | .array (v :: rest) => String.ofList (Yaml.Printer.items 0 (v :: rest))
  | .object (m :: rest) => String.ofList (Yaml.Printer.members 0 (m :: rest))
  | v => String.ofList ((Yaml.Printer.itemText 0 v).drop 1)

end ApiModel
