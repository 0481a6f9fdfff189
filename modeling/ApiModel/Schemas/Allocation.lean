import ApiModel.Schemas.Registry
import ApiModel.Text.Casing

/-!
# Allocation of schema names

A synthesized schema gets the first of its candidates, in Pascal case, that is neither registered
nor reserved, or else the first candidate with the least number from two on that makes it so.
Reserved are the keywords and built-in types of the languages for which code is generated, and
configured names.
-/

namespace ApiModel

namespace Reserved

/-- Keywords of TypeScript and JavaScript. -/
def keywords : List String :=
  ["abstract", "any", "as", "async", "await", "boolean", "break", "case", "catch", "class",
    "const", "constructor", "continue", "debugger", "declare", "default", "delete", "do", "else",
    "enum", "export", "extends", "false", "finally", "for", "from", "function", "get", "if",
    "implements", "import", "in", "instanceof", "interface", "is", "keyof", "let", "module",
    "namespace", "never", "new", "null", "number", "object", "of", "package", "private",
    "protected", "public", "readonly", "require", "return", "set", "static", "string", "super",
    "switch", "symbol", "this", "throw", "true", "try", "type", "typeof", "undefined", "unique",
    "unknown", "var", "void", "while", "with", "yield"]

/-- Further keywords of Python. -/
def pythonKeywords : List String :=
  ["and", "assert", "def", "del", "elif", "except", "global", "lambda", "nonlocal", "not", "or",
    "pass", "raise", "None", "True", "False"]

/-- Types that are built in. -/
def builtinTypes : List String :=
  ["Array", "Boolean", "Date", "Function", "Map", "Number", "Object", "Omit", "Partial", "Pick",
    "Promise", "Readonly", "Record", "Required", "Set", "String", "Symbol"]

/-- The names that are always reserved. -/
def words : List String :=
  keywords ++ pythonKeywords ++ builtinTypes

end Reserved

/-- The names that no schema may take. -/
structure Reserved where
  /-- The configured ones. -/
  extra : List String := []
  deriving Inhabited

/-- Whether a name is reserved. -/
def Reserved.contains (r : Reserved) (name : String) : Bool :=
  Reserved.words.contains name || r.extra.contains name

namespace Allocation

/-- The greatest number that is put behind a name. -/
def maxSuffix : Nat := 10000

/-- The candidates in Pascal case that are not empty. -/
def pascalNames (candidates : List String) : List String :=
  (candidates.map fun c => String.ofList (Text.pascal c.toList)).filter (· ≠ "")

/-- A name with each number that may stand behind it. -/
def numbered (base : String) : List String :=
  (List.range' 2 (maxSuffix - 1)).map fun i => base ++ toString i

/-- The first free name: a candidate, or the first candidate with a number. -/
def allocateWith (isTaken : String → Bool) (reserved : Reserved) (candidates : List String) :
    Except BuildError String :=
  let isFree (name : String) := !isTaken name && !reserved.contains name
  let names := pascalNames candidates
  match names.find? isFree with
  | some name => .ok name
  | none =>
    let base := names.head?.getD "Schema"
    match (numbered base).find? isFree with
    | some name => .ok name
    | none => .error (.namesExhausted base)

end Allocation

/-- A model in the making: its registry, the names it must avoid, and what was noted. -/
structure Draft where
  /-- The schemas so far. -/
  registry : Registry := {}
  /-- The names that no schema may take. -/
  reserved : Reserved := {}
  /-- What was noted so far. -/
  diagnostics : List Diagnostic := []
  deriving Inhabited

namespace Draft

/-- A draft that avoids further names. -/
def start (extra : List String) : Draft :=
  { reserved := ⟨extra⟩ }

/-- Notes diagnostics. -/
def note (d : Draft) (ds : List Diagnostic) : Draft :=
  { d with diagnostics := d.diagnostics ++ ds }

/-- The name that a schema with these candidates would get. -/
def allocate (d : Draft) (candidates : List String) : Except BuildError String :=
  Allocation.allocateWith d.registry.contains d.reserved candidates

/-- Adds a synthesized schema under a free name, and gives the name. -/
def register (d : Draft) (candidates : List String) (s : OrRef Schema) :
    Except BuildError (String × Draft) := do
  let name ← d.allocate candidates
  let registry ← d.registry.synthesize name s
  return (name, { d with registry })

end Draft

end ApiModel
