import ApiModel.Document.Operation
import ApiModel.Text.Casing

/-!
# Names

A `Name` is a text with its four casings.  They are taken from the identifier that one pass over the
text makes of its letters and numbers, so that characters that no identifier can hold do not count.
Further, the texts from which the names of operations are made: the route, and the local part and
the whole of an operation id.
-/

namespace ApiModel

open Text

/-- A text with its casings. -/
structure Name where
  /-- The text. -/
  text : String
  /-- Its words, each capitalized. -/
  pascal : String
  /-- Its words, all but the first capitalized. -/
  camel : String
  /-- Its words in lower case with underscores between them. -/
  snake : String
  /-- Its words in upper case with underscores between them. -/
  screaming : String
  deriving DecidableEq, Repr, Inhabited

namespace Name

/-- How far a text is read on the way to an identifier. -/
structure Scan where
  /-- What is kept so far, last character first. -/
  kept : List Char
  /-- Whether the character that was read last was left out. -/
  gap : Bool

namespace Scan

/-- Before the first character. -/
def start : Scan := ⟨[], false⟩

/-- Reads one more character.  Letters and numbers are kept, and an underscore marks a gap between
two of them. -/
def step (scan : Scan) (c : Char) : Scan :=
  if isAlphanumeric c then
    let kept := if scan.gap && !scan.kept.isEmpty then '_' :: scan.kept else scan.kept
    ⟨c :: kept, false⟩
  else { scan with gap := true }

end Scan

/-- What is kept of a text, or a stand-in if that is nothing. -/
def identifier (s : List Char) : List Char :=
  match (s.foldl Scan.step .start).kept with
  | [] => "unnamed".toList
  | kept => kept.reverse

/-- The name with a text. -/
def ofText (text : String) : Name :=
  let s := identifier text.toList
  { text
    pascal := String.ofList (Text.pascal s)
    camel := String.ofList (Text.camel s)
    snake := String.ofList (Text.snake s)
    screaming := String.ofList (Text.screaming s) }

/-- The camel case form of a text. -/
def camelOf (text : String) : String :=
  (ofText text).camel

end Name

/-- The name of what a method does at a path: the method and every word of the path. -/
def routeName (method : Method) (path : String) : String :=
  match runs path.toList with
  | [] => method.lowerName
  | rs => String.ofList (Text.camel (method.lowerName.toList ++ ' ' :: [' '].intercalate rs))

namespace OperationId

/-- Whether a character stands between a namespace and a local name. -/
def isDelimiter (c : Char) : Bool :=
  c = '.' || c = ':' || c = '/'

/-- A text in camel case, if anything is left of it. -/
def camel? (s : List Char) : Option String :=
  match Text.camel s with
  | [] => none
  | cs => some (String.ofList cs)

/-- The local part of an operation id: the last part between delimiters that has a letter or a
number. -/
def localPart? (id : String) : Option (List Char) :=
  (split isDelimiter (trim id.toList)).reverse.find? (·.any isAlphanumeric)

/-- The local part of an operation id in camel case. -/
def localName? (id : String) : Option String :=
  (localPart? id).bind camel?

/-- The whole of an operation id in camel case. -/
def fullName? (id : String) : Option String :=
  camel? (trim id.toList)

end OperationId

namespace Route

/-- Whether a segment of a path is a parameter in braces. -/
def isParameter (segment : List Char) : Bool :=
  segment.head? == some '\x7b' && segment.getLast? == some '\x7d'

/-- The segments of a path that are not empty. -/
def segments (path : String) : List (List Char) :=
  (split (· = '/') path.toList).filter (!·.isEmpty)

/-- The first segment that is no parameter. -/
def firstStatic? (path : String) : Option String :=
  ((segments path).find? (!isParameter ·)).map String.ofList

end Route

/-- The tag of an operation: its first tag that is not blank, or else the first static segment of
its path, or else `default`. -/
def tagOf (path : String) (tags : List String) : String :=
  match (tags.map fun t => trim t.toList).find? (!·.isEmpty) with
  | some t => String.ofList t
  | none => (Route.firstStatic? path).getD "default"

end ApiModel
