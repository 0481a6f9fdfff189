import ApiModel.Document.Read

/-!
# Parsing documents

A document is parsed from a text in JSON or YAML.  Only versions that start with `3.` are supported.
-/

namespace ApiModel

/-- The name of a language. -/
def Syntax.title : Syntax → String
  | .json => "JSON"
  | .yaml => "YAML"

/-- Why a text is no document. -/
inductive ParseError where
  /-- It does not have the form of a document in its language. -/
  | malformed (language : Syntax)
  /-- It is a document of another version. -/
  | unsupportedVersion (version : String)
  deriving DecidableEq, Repr

namespace ParseError

/-- What is wrong with a malformed text. -/
def malformedText : String :=
  "the text does not have the expected form"

/-- The text of an error. -/
def message : ParseError → String
  | malformed language => "failed to parse " ++ language.title ++ ": " ++ malformedText
  | unsupportedVersion version => "unsupported OpenAPI version: " ++ version

end ParseError

/-- Parses a document. -/
def Document.parse (language : Syntax) (text : String) : Except ParseError Document :=
  match (language.tree? Document.outline text).bind Document.ofTree? with
  | none => .error (.malformed language)
  | some d =>
    if d.openapi.startsWith "3." then .ok d else .error (.unsupportedVersion d.openapi)

end ApiModel
