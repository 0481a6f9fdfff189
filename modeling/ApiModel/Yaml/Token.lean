import ApiModel.Yaml.Tag

/-!
# Tokens of a YAML text

`Token.ofText?` cuts a text into tokens.  Blocks are marked by indentation, so the tokens that open
and close them have no characters of their own: a column right of the open block opens one, and a
column left of it closes it.  A simple key is known as a key only when its colon comes, so the `key`
token (and the one that opens its mapping) is then put before what has been read of it.
-/

namespace ApiModel.Yaml

/-- How a scalar is written. -/
inductive Style where
  /-- Without quotes. -/
  | plain
  /-- Between quotes. -/
  | quoted
  /-- As a block whose lines stay. -/
  | literal
  /-- As a block whose lines are folded. -/
  | folded
  deriving DecidableEq, Repr

/-- A token. -/
inductive Token where
  /-- The version that a directive asks for. -/
  | version (major minor : Nat)
  /-- A directive that gives a tag handle a prefix. -/
  | tagPrefix (handle : String) (uri : TagText)
  /-- The mark that starts a document. -/
  | documentStart
  /-- The mark that ends a document. -/
  | documentEnd
  /-- Opens a block list. -/
  | blockList
  /-- Opens a block mapping. -/
  | blockMap
  /-- Closes a block. -/
  | blockEnd
  /-- An opening bracket. -/
  | listStart
  /-- A closing bracket. -/
  | listEnd
  /-- An opening brace. -/
  | mapStart
  /-- A closing brace. -/
  | mapEnd
  /-- The hyphen before an item. -/
  | item
  /-- A comma inside brackets. -/
  | comma
  /-- A key comes next. -/
  | key
  /-- A value comes next. -/
  | value
  /-- A reference to an anchor. -/
  | alias (name : String)
  /-- A name for the next node. -/
  | anchor (name : String)
  /-- A tag for the next node. -/
  | tag (handle : String) (suffix : TagText)
  /-- A scalar. -/
  | scalar (style : Style) (text : String)
  deriving DecidableEq, Repr

/-- A place where a simple key may have begun. -/
structure KeyStart where
  /-- How many tokens come before it. -/
  token : Nat
  /-- Whether nothing but a key can stand there. -/
  required : Bool
  /-- The number of bytes before it. -/
  index : Nat
  /-- Its line. -/
  line : Nat
  /-- Its column. -/
  column : Nat

/-- What has been read, and what is known about the rest. -/
structure Scan where
  /-- The place that has been reached. -/
  cursor : Cursor
  /-- The tokens so far, last one first. -/
  tokens : List Token := []
  /-- How many tokens there are. -/
  count : Nat := 0
  /-- How many brackets are open. -/
  flow : Nat := 0
  /-- The column of the open block, or `-1`. -/
  indent : Int := -1
  /-- The columns of the blocks around it, innermost first. -/
  outer : List Int := []
  /-- Whether a simple key may begin here. -/
  keyAllowed : Bool := true
  /-- Where a simple key may have begun, for the innermost bracket first. -/
  keys : List (Option KeyStart) := [none]

namespace Scan

/-- Adds a token. -/
def push (s : Scan) (t : Token) : Scan :=
  { s with tokens := t :: s.tokens, count := s.count + 1 }

/-- Puts a token behind the first `n`. -/
def insertAt (s : Scan) (n : Nat) (t : Token) : Scan :=
  let later := s.count - n
  { s with
    tokens := s.tokens.take later ++ t :: s.tokens.drop later
    count := s.count + 1 }

/-- Moves on by characters of one line. -/
def skip (s : Scan) (n : Nat) : Scan :=
  { s with cursor := s.cursor.skip n }

/-- Forgets where a simple key may have begun; refused where a key is required. -/
def dropKey? (s : Scan) : Option Scan :=
  match s.keys with
  | some k :: rest => if k.required then none else some { s with keys := none :: rest }
  | _ => some s

/-- Notes that a simple key may begin here. -/
def saveKey? (s : Scan) : Option Scan :=
  if s.keyAllowed then do
    let s ← s.dropKey?
    let required := s.flow == 0 && s.indent == s.cursor.column
    let k : KeyStart := ⟨s.count, required, s.cursor.index, s.cursor.line, s.cursor.column⟩
    some { s with keys := some k :: s.keys.drop 1 }
  else some s

/-- Whether a simple key that began at `k` can no longer end: it stays on one line and is not longer
than 1024 bytes. -/
def isStale (s : Scan) (k : KeyStart) : Bool :=
  k.line < s.cursor.line || k.index + 1024 < s.cursor.index

/-- Forgets the simple keys that can no longer end. -/
def dropStale? (s : Scan) : Option Scan := do
  let keys ← s.keys.mapM fun
    | some k => if s.isStale k then if k.required then none else some none else some (some k)
    | none => some none
  some { s with keys }

/-- Opens a block at a column right of the open one, putting its token behind the first `n`. -/
def openBlock (s : Scan) (column n : Nat) (t : Token) : Scan :=
  if s.flow = 0 ∧ s.indent < column then
    { s.insertAt n t with indent := column, outer := s.indent :: s.outer }
  else s

/-- Closes blocks from the innermost on as long as they lie right of a column. -/
def closeAbove (column : Int) (s : Scan) : List Int → Scan
  | [] => s
  | i :: outer =>
    if column < s.indent then
      closeAbove column { s.push .blockEnd with indent := i, outer := outer } outer
    else s

/-- Closes the blocks right of a column. -/
def closeBlocks (s : Scan) (column : Int) : Scan :=
  if s.flow = 0 then closeAbove column s s.outer else s

/-- Skips blanks, comments and line breaks, and a byte order mark at the start of a line.  A tab is a
blank unless a simple key may begin. -/
def skipGaps : Nat → Scan → Scan
  | 0, s => s
  | fuel + 1, s =>
    let tabs := 0 < s.flow ∨ !s.keyAllowed
    let c := if s.cursor.column = 0 ∧ s.cursor.rest.head? = some '\ufeff' then s.cursor.skip 1
      else s.cursor
    let c := (c.takeWhile fun ch => ch = ' ' ∨ (tabs ∧ ch = '\t')).2
    let c := if c.rest.head? = some '#' then (c.takeWhile (!isBreak ·)).2 else c
    match c.rest with
    | [] => { s with cursor := c }
    | ch :: _ =>
      if isBreak ch then
        skipGaps fuel
          { s with cursor := c.takeBreak.2, keyAllowed := s.keyAllowed || s.flow == 0 }
      else { s with cursor := c }

/-- Reads a mark that starts or ends a document. -/
def documentMark? (s : Scan) (t : Token) : Option Scan := do
  let s ← (s.closeBlocks (-1)).dropKey?
  some ({ s with keyAllowed := false }.skip 3 |>.push t)

/-- Reads an opening bracket. -/
def openBracket? (s : Scan) (t : Token) : Option Scan := do
  let s ← s.saveKey?
  some ({ s with keyAllowed := true, flow := s.flow + 1, keys := none :: s.keys }.skip 1 |>.push t)

/-- Reads a closing bracket. -/
def closeBracket? (s : Scan) (t : Token) : Option Scan := do
  let s ← s.dropKey?
  let keys := if s.flow = 0 then s.keys else s.keys.drop 1
  some ({ s with keyAllowed := false, flow := s.flow - 1, keys }.skip 1 |>.push t)

/-- Reads a comma. -/
def comma? (s : Scan) : Option Scan := do
  let s ← s.dropKey?
  some ({ s with keyAllowed := true }.skip 1 |>.push .comma)

/-- Reads the hyphen of an item. -/
def item? (s : Scan) : Option Scan := do
  if s.flow = 0 ∧ !s.keyAllowed then none
  let s ← (s.openBlock s.cursor.column s.count .blockList).dropKey?
  some ({ s with keyAllowed := true }.skip 1 |>.push .item)

/-- Reads the question mark of a key. -/
def key? (s : Scan) : Option Scan := do
  if s.flow = 0 ∧ !s.keyAllowed then none
  let s ← (s.openBlock s.cursor.column s.count .blockMap).dropKey?
  some ({ s with keyAllowed := s.flow == 0 }.skip 1 |>.push .key)

/-- Reads the colon of a value, which makes a key of what may have been one. -/
def value? (s : Scan) : Option Scan :=
  match s.keys with
  | some k :: rest =>
    let s := (s.insertAt k.token .key).openBlock k.column k.token .blockMap
    some ({ s with keyAllowed := false, keys := none :: rest }.skip 1 |>.push .value)
  | _ => do
    if s.flow = 0 ∧ !s.keyAllowed then none
    let s := s.openBlock s.cursor.column s.count .blockMap
    some ({ s with keyAllowed := s.flow == 0 }.skip 1 |>.push .value)

/-- Reads the name of an anchor or a reference, which a gap or a mark follows. -/
def name? (s : Scan) (token : String → Token) : Option Scan := do
  let s ← s.saveKey?
  let (name, c) := (s.cursor.skip 1).takeWhile isNameChar
  let ends := atGap c.rest ||
    c.rest.head?.any (· ∈ ['?', ':', ',', ']', '\x7d', '%', '@', '\x60'])
  if name.isEmpty ∨ !ends then none
  some ({ s with keyAllowed := false, cursor := c }.push (token (String.ofList name)))

/-- The characters of a tag; inside angle brackets and in directives there are three more. -/
def isUriChar (wide : Bool) (c : Char) : Bool :=
  isNameChar c ||
    c ∈ [';', '/', '?', ':', '@', '&', '=', '+', '$', '.', '!', '~', '*', '\'', '(', ')', '%'] ||
    (wide && c ∈ [',', '[', ']'])

/-- Reads the characters of a tag, to follow `before`; together they may not be empty. -/
def uri? (wide : Bool) (before : List Char) (c : Cursor) : Option (TagText × Cursor) := do
  let (s, c) := c.takeWhile (isUriChar wide)
  let t ← TagText.unescape? {} s
  if before.isEmpty ∧ t.isEmpty then none
  some ((before.drop 1).map some ++ t.untilNull, c)

/-- Reads a tag handle: an exclamation mark, a name, and a second mark if it follows. -/
def handle (c : Cursor) : List Char × Cursor :=
  let (name, c) := (c.skip 1).takeWhile isNameChar
  if c.rest.head? = some '!' then ('!' :: name ++ ['!'], c.skip 1) else ('!' :: name, c)

/-- Reads a tag. -/
def tag? (s : Scan) : Option Scan := do
  let s ← s.saveKey?
  let (handle, suffix, c) ←
    if s.cursor.rest.drop 1 |>.head? |>.any (· == '<') then do
      let (uri, c) ← uri? true [] (s.cursor.skip 2)
      if c.rest.head? ≠ some '>' then none
      some (([] : List Char), uri, c.skip 1)
    else
      let (head, c) := handle s.cursor
      if 2 ≤ head.length ∧ head.getLast? = some '!' then do
        let (uri, c) ← uri? false [] c
        some (head, uri, c)
      else do
        let (uri, c) ← uri? false head c
        some (if uri.isEmpty then ([], TagText.ofString "!", c) else (['!'], uri, c))
  if !(atGap c.rest || (0 < s.flow && c.rest.head? == some ',')) then none
  some ({ s with keyAllowed := false, cursor := c }.push
    (.tag (String.ofList handle) suffix))

/-- Reads a block scalar. -/
def block? (s : Scan) (literal : Bool) : Option Scan := do
  let s ← s.dropKey?
  let (text, c) ← Block.read? literal s.indent s.cursor
  let style := if literal then .literal else .folded
  some ({ s with keyAllowed := true, cursor := c }.push (.scalar style (String.ofList text)))

/-- Reads a quoted scalar. -/
def quoted? (s : Scan) (single : Bool) : Option Scan := do
  let s ← s.saveKey?
  let (text, c) ← Quoted.read? single s.cursor
  some ({ s with keyAllowed := false, cursor := c }.push (.scalar .quoted (String.ofList text)))

/-- Reads a plain scalar. -/
def plain? (s : Scan) : Option Scan := do
  let s ← s.saveKey?
  let (text, broken, c) ← Plain.read? (0 < s.flow) (s.indent + 1).toNat s.cursor
  some ({ s with keyAllowed := broken, cursor := c }.push (.scalar .plain (String.ofList text)))

/-- The value of at most nine digits. -/
def number? (c : Cursor) : Option (Nat × Cursor) :=
  let (ds, c) := c.takeWhile Char.isDigit
  if ds.isEmpty ∨ 9 < ds.length then none
  else some (ds.foldl (fun n d => 10 * n + (d.toNat - 0x30)) 0, c)

/-- Reads the token of a directive, after its name. -/
def directiveToken? (name : List Char) (c : Cursor) : Option (Token × Cursor) :=
  let c := (c.takeWhile isSpace).2
  if name = "YAML".toList then do
    let (major, c) ← number? c
    if c.rest.head? ≠ some '.' then none
    let (minor, c) ← number? (c.skip 1)
    some (.version major minor, c)
  else if name = "TAG".toList then do
    if c.rest.head? ≠ some '!' then none
    let (h, c) := handle c
    if !(h = ['!'] ∨ h.getLast? = some '!') then none
    if !c.rest.head?.any isSpace then none
    let c := (c.takeWhile isSpace).2
    let (uri, c) ← uri? true [] c
    if !atGap c.rest then none
    some (.tagPrefix (String.ofList h) uri, c)
  else none

/-- Reads a directive and the rest of its line. -/
def directive? (s : Scan) : Option Scan := do
  let s ← (s.closeBlocks (-1)).dropKey?
  let (name, c) := (s.cursor.skip 1).takeWhile isNameChar
  if name.isEmpty ∨ !atGap c.rest then none
  let (t, c) ← directiveToken? name c
  let c := (c.takeWhile isSpace).2
  let c := if c.rest.head? = some '#' then (c.takeWhile (!isBreak ·)).2 else c
  if !atLineEnd c.rest then none
  some ({ s with keyAllowed := false, cursor := c.takeBreak.2 }.push t)

/-- The marks that begin no plain scalar. -/
def indicators : List Char :=
  ['-', '?', ':', ',', '[', ']', '\x7b', '\x7d', '#', '&', '*', '!', '|', '>', '\'', '"', '%', '@',
    '\x60']

/-- Whether a plain scalar begins here. -/
def startsPlain (flow : Nat) (ch : Char) (rest : List Char) : Bool :=
  !(isSpace ch || isBreak ch || ch ∈ indicators) ||
    (ch = '-' && !rest.head?.any isSpace) ||
    (flow == 0 && (ch = '?' || ch = ':') && !atGap rest)

/-- Reads the next token; gaps have been skipped. -/
def token? (s : Scan) (ch : Char) (rest : List Char) : Option Scan :=
  if s.cursor.column = 0 ∧ ch = '%' then s.directive?
  else if s.cursor.atDocumentMark then
    s.documentMark? (if ch = '-' then .documentStart else .documentEnd)
  else if ch = '[' then s.openBracket? .listStart
  else if ch = '\x7b' then s.openBracket? .mapStart
  else if ch = ']' then s.closeBracket? .listEnd
  else if ch = '\x7d' then s.closeBracket? .mapEnd
  else if ch = ',' then s.comma?
  else if ch = '-' ∧ atGap rest then s.item?
  else if ch = '?' ∧ (0 < s.flow ∨ atGap rest) then s.key?
  else if ch = ':' ∧ (0 < s.flow ∨ atGap rest) then s.value?
  else if ch = '*' then s.name? .alias
  else if ch = '&' then s.name? .anchor
  else if ch = '!' then s.tag?
  else if ch = '|' ∧ s.flow = 0 then s.block? true
  else if ch = '>' ∧ s.flow = 0 then s.block? false
  else if ch = '\'' then s.quoted? true
  else if ch = '"' then s.quoted? false
  else if startsPlain s.flow ch rest then s.plain?
  else none

/-- Reads tokens to the end of the text. -/
def run? : Nat → Scan → Option Scan
  | 0, _ => none
  | fuel + 1, s => do
    let s := skipGaps s.cursor.steps s
    let s ← s.dropStale?
    match s.cursor.rest with
    | [] => (s.closeBlocks (-1)).dropKey?
    | ch :: rest =>
      let s ← (s.closeBlocks s.cursor.column).token? ch rest
      run? fuel s

end Scan

/-- The tokens of a text. -/
def Token.ofText? (text : String) : Option (List Token) := do
  let cs := text.toList
  if !cs.all isPrintable then none
  let s ← Scan.run? (cs.length + 2) { cursor := { rest := cs } }
  some s.tokens.reverse

end ApiModel.Yaml
