import ApiModel.Document.Basic

/-!
# Pointers

A pointer names a component of the document: `#/components/`, a section, a slash, and the name of an
entry, in which `~1` stands for a slash and `~0` for a tilde.
-/

namespace ApiModel

/-- What is wrong with a pointer. -/
inductive RefError where
  /-- It names nothing. -/
  | unresolved (pointer : String)
  /-- It leads back to itself. -/
  | circular (pointer : String)
  /-- It is no pointer, or one to another section than is wanted. -/
  | malformed (what : String)
  deriving DecidableEq, Repr, Inhabited

/-- The text of an error. -/
def RefError.message : RefError → String
  | unresolved p => "unresolved reference: " ++ p
  | circular p => "circular reference detected: " ++ p
  | malformed w => "invalid reference format: " ++ w

/-- A section of the components. -/
inductive Section where
  | schemas
  | parameters
  | securitySchemes
  | requestBodies
  | responses
  deriving DecidableEq, Repr, Inhabited

namespace Section

/-- The sections. -/
def all : List Section :=
  [schemas, parameters, securitySchemes, requestBodies, responses]

/-- The name of a section in a pointer. -/
def key : Section → String
  | schemas => "schemas"
  | parameters => "parameters"
  | securitySchemes => "securitySchemes"
  | requestBodies => "requestBodies"
  | responses => "responses"

/-- The name of a section as a kind of things. -/
def title : Section → String
  | schemas => "Schemas"
  | parameters => "Parameters"
  | securitySchemes => "SecuritySchemes"
  | requestBodies => "RequestBodies"
  | responses => "Responses"

/-- The section with a name. -/
def ofKey? (key : String) : Option Section :=
  all.find? (·.key == key)

end Section

namespace Pointer

/-- Where every pointer begins. -/
def root : List Char :=
  "#/components/".toList

/-- The text after an expected beginning. -/
def afterPrefix? : List Char → List Char → Option (List Char)
  | [], s => some s
  | _ :: _, [] => none
  | c :: cs, d :: s => if c = d then afterPrefix? cs s else none

/-- The text before the first slash and the text after it. -/
def splitSlash? : List Char → Option (List Char × List Char)
  | [] => none
  | c :: rest =>
    if c = '/' then some ([], rest)
    else (splitSlash? rest).map fun (before, after) => (c :: before, after)

/-- The text with each tilde before a digit, and that digit, replaced by a character. -/
def replaceTilde (digit sign : Char) : List Char → List Char
  | [] => []
  | [c] => [c]
  | c :: d :: rest =>
    if c = '~' ∧ d = digit then sign :: replaceTilde digit sign rest
    else c :: replaceTilde digit sign (d :: rest)

/-- The name that a token of a pointer writes. -/
def unescape (token : List Char) : List Char :=
  replaceTilde '0' '~' (replaceTilde '1' '/' token)

/-- The section and the entry that a pointer names. -/
def target? (pointer : String) : Option (Section × String) := do
  let rest ← afterPrefix? root pointer.toList
  let (key, token) ← splitSlash? rest
  let sec ← Section.ofKey? (String.ofList key)
  if token.isEmpty then none
  else some (sec, String.ofList (unescape token))

/-- The section and the entry that a pointer names, or why there are none. -/
def target (pointer : String) : Except RefError (Section × String) :=
  match target? pointer with
  | some t => .ok t
  | none => .error (.malformed pointer)

/-- The entry that a pointer names in a given section. -/
def nameIn (sec : Section) (pointer : String) : Except RefError String :=
  match target pointer with
  | .error e => .error e
  | .ok (s, name) =>
    if s = sec then .ok name
    else .error (.malformed ("expected " ++ sec.title ++ " pointer, got " ++ pointer))

end Pointer

end ApiModel
