import ApiModel.Pointer

/-!
# Errors and diagnostics

A `BuildError` ends the building of a model.  A `Diagnostic` is noted while a model is built, which
goes on with a local default.
-/

namespace ApiModel

/-- Why no model could be built. -/
inductive BuildError where
  /-- A pointer cannot be followed. -/
  | badRef (e : RefError)
  /-- A security scheme lacks a field that its type needs. -/
  | missingField (scheme field : String)
  /-- Every name that a schema may take is taken. -/
  | namesExhausted (base : String)
  /-- A schema name is given twice. -/
  | nameTaken (name : String)
  /-- No response analyzer has the configured name. -/
  | unknownAnalyzer (name : String)
  deriving DecidableEq, Repr, Inhabited

/-- The text of an error. -/
def BuildError.message : BuildError → String
  | badRef e => "resolve error: " ++ e.message
  | missingField scheme field =>
    "security scheme \x60" ++ scheme ++ "\x60 is missing required field \x60" ++ field ++ "\x60"
  | namesExhausted base =>
    "no free schema name for \x60" ++ base ++ "\x60; allocator suffixes exhausted"
  | nameTaken name => "schema \x60" ++ name ++ "\x60 registered twice in one run"
  | unknownAnalyzer name => "unknown response analyzer: " ++ name

/-- A result of resolving as a result of building. -/
def liftRef {α : Type} (x : Except RefError α) : Except BuildError α :=
  x.mapError .badRef

/-- What a diagnostic is about. -/
inductive DiagnosticKind where
  /-- A request body gives no schema for a content type. -/
  | emptyMediaType
  /-- A parameter takes the place of a body property. -/
  | parameterShadowsBodyField
  /-- Two parameters share a name. -/
  | parameterNameClash
  /-- A security parameter shares its name with another field. -/
  | securityFieldShadowed
  /-- A security scheme has no parameter. -/
  | unsupportedSecurityScheme
  deriving DecidableEq, Repr, Inhabited

/-- Something that was noted while a model was built. -/
structure Diagnostic where
  /-- What it is about. -/
  kind : DiagnosticKind
  /-- The operation that it belongs to. -/
  operation : Option String
  /-- What was noted. -/
  message : String
  deriving DecidableEq, Repr, Inhabited

/-- The text of a diagnostic. -/
def Diagnostic.display (d : Diagnostic) : String :=
  match d.operation with
  | some op => op ++ ": " ++ d.message
  | none => d.message

end ApiModel
