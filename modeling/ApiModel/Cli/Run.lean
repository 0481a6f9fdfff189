import ApiModel.Cli.Command
import ApiModel.Config
import ApiModel.Document.Parse
import ApiModel.Model.Summary

/-!
# Running commands

What each command reads and writes, and what it prints.  The files are reached through a `Files`
value, so that a command runs over any kind of directory.
-/

namespace ApiModel

/-- Why a file cannot be read. -/
inductive ReadError where
  /-- There is no such file. -/
  | missing
  /-- It is a directory. -/
  | directory
  /-- Something on the way to it is no directory. -/
  | notDirectory
  /-- It holds no text. -/
  | notText
  /-- A part of its path, or all of it, is too long. -/
  | nameTooLong
  /-- Its path holds a null character. -/
  | nullInName
  /-- Anything else. -/
  | other (reason : String)
  deriving DecidableEq, Repr

/-- The text of an error. -/
def ReadError.message : ReadError → String
  | missing => "No such file or directory (os error 2)"
  | directory => "Is a directory (os error 21)"
  | notDirectory => "Not a directory (os error 20)"
  | notText => "stream did not contain valid UTF-8"
  | nameTooLong => "File name too long (os error 36)"
  | nullInName => "file name contained an unexpected NUL byte"
  | other reason => reason

/-- Why there is no configuration. -/
inductive ConfigError where
  /-- The file cannot be read. -/
  | unreadable (e : ReadError)
  /-- The file does not have the form of a configuration. -/
  | malformed
  deriving DecidableEq, Repr

/-- The configuration that a file gives; a missing file gives none. -/
def Config.ofFile (file : Except ReadError String) : Except ConfigError (Option Config) :=
  match file with
  | .error .missing => .ok none
  | .error e => .error (.unreadable e)
  | .ok text =>
    match Config.ofText? text with
    | some c => .ok (some c)
    | none => .error .malformed

namespace Cli

/-- A failure: what failed, and why. -/
structure Failure where
  /-- What failed. -/
  message : String
  /-- The causes, each of the one before it. -/
  causes : List String := []
  deriving DecidableEq, Repr

namespace Failure

/-- A text whose lines after the first are indented. -/
def indentLines (indent : String) (text : String) : String :=
  String.ofList (text.toList.flatMap fun c => if c = '\n' then c :: indent.toList else [c])

/-- Causes with their numbers. -/
def numbered : Nat → List String → String
  | _, [] => ""
  | i, cause :: rest =>
    "\n    " ++ toString i ++ ": " ++ indentLines "       " cause ++ numbered (i + 1) rest

/-- The causes of a failure; a single one has no number. -/
def causeText : List String → String
  | [] => ""
  | [cause] => "\n\nCaused by:\n    " ++ indentLines "    " cause
  | causes => "\n\nCaused by:" ++ numbered 0 causes

/-- The text of a failure. -/
def text (f : Failure) : String :=
  "Error: " ++ f.message ++ causeText f.causes ++ "\n"

end Failure

/-- How files are reached. -/
structure Files (m : Type → Type) where
  /-- Reads a file. -/
  read : String → m (Except ReadError String)
  /-- Writes a file, or says why not. -/
  write : String → String → m (Option String)

/-- How a run ends. -/
structure Exit where
  /-- The exit code. -/
  code : Nat := 0
  /-- What is printed. -/
  out : String := ""
  /-- What is printed as messages. -/
  err : String := ""
  deriving DecidableEq, Repr

namespace Exit

/-- The end after a failure, with the messages before it. -/
def failed (before : String) (f : Failure) : Exit where
  code := 1
  err := before ++ f.text

end Exit

/-- The path of a file in the current directory. -/
def inDirectory (path : String) : String :=
  if path.startsWith "/" then path else "./" ++ path

/-- The path of the configuration file. -/
def configPath : String :=
  inDirectory Config.fileName

/-- The failure for a bad configuration. -/
def configFailure : ConfigError → Failure
  | .unreadable e => ⟨"failed to read config " ++ configPath ++ ": " ++ e.message, [e.message]⟩
  | .malformed =>
    ⟨"failed to parse config " ++ configPath ++ ": " ++ ParseError.malformedText,
      [ParseError.malformedText]⟩

/-- The failure for a file that cannot be read. -/
def readFailure (path : String) (e : ReadError) : Failure :=
  ⟨"failed to read " ++ path, [e.message]⟩

/-- The failure for a text that is no document. -/
def parseFailure (path : String) (e : ParseError) : Failure where
  message := "failed to parse " ++ path
  causes :=
    match e with
    | .malformed _ => [e.message, ParseError.malformedText]
    | .unsupportedVersion _ => [e.message]

/-- The failure for a document without a model. -/
def buildFailure (path : String) (e : BuildError) : Failure where
  message := "failed to build IR for " ++ path
  causes :=
    match e with
    | .badRef cause => [e.message, cause.message]
    | _ => [e.message]

/-- The last part of a path, without slashes after it. -/
def lastPart (path : String) : List Char :=
  ((path.toList.reverse.dropWhile (· = '/')).takeWhile (· ≠ '/')).reverse

/-- The language of a file: JSON when its name, which does not start with this dot, ends with
`.json`. -/
def languageOf (path : String) : Syntax :=
  match (lastPart path).reverse with
  | 'n' :: 'o' :: 's' :: 'j' :: '.' :: _ :: _ => .json
  | _ => .yaml

/-- What a project is about: its configuration, and the path and the text of its document. -/
structure Project where
  /-- The configuration. -/
  config : Config
  /-- The path of the document. -/
  path : String
  /-- The document. -/
  document : Document

variable {m : Type → Type} [Monad m]

/-- Opens the project in the current directory. -/
def openProject (files : Files m) (input : Option String) : m (Except Failure Project) := do
  match Config.ofFile (← files.read configPath) with
  | .error e => return .error (configFailure e)
  | .ok config =>
    let config := config.getD {}
    let path := input.getD (inDirectory config.input)
    match ← files.read path with
    | .error e => return .error (readFailure path e)
    | .ok text =>
      match Document.parse (languageOf path) text with
      | .error e => return .error (parseFailure path e)
      | .ok document => return .ok ⟨config, path, document⟩

/-- The model of a project. -/
def Project.model (p : Project) : Except Failure Model :=
  (Model.build p.config.options [] p.document).mapError (buildFailure p.path)

/-- Lines with their ends. -/
def lines (ls : List String) : String :=
  String.join (ls.map (· ++ "\n"))

/-- What is said about a valid document. -/
def documentLines (d : Document) : List String :=
  ["Valid OpenAPI " ++ d.openapi ++ " document: " ++ d.info.title,
    "  Version: " ++ d.info.version,
    "  Paths: " ++ toString d.paths.length] ++
  match d.components with
  | some c => ["  Schemas: " ++ toString c.schemas.length]
  | none => []

/-- What is said about a model. -/
def modelLines (m : Model) : List String :=
  ["  Operations: " ++ toString m.endpoints.length,
    "  Registry: " ++ toString m.registry.entries.length ++ " schemas (" ++
      toString m.registry.synthesized.length ++ " synthesized)"] ++
  m.diagnostics.map ("  warning: " ++ ·.display) ++
  ["Validation successful."]

/-- Validates a project. -/
def validate (p : Project) : Exit :=
  let before := lines (documentLines p.document)
  match p.model with
  | .error f => .failed before f
  | .ok m => { err := before ++ lines (modelLines m) }

/-- Inspects a project. -/
def inspect (format : Syntax) (p : Project) : Exit :=
  match p.model with
  | .error f => .failed "" f
  | .ok m => { out := m.summaryText format }

/-- Whether there is a file, readable or not. -/
def isPresent : Except ReadError String → Bool
  | .error .missing => false
  | _ => true

/-- Writes a new configuration file. -/
def init (files : Files m) (force : Bool) : m Exit := do
  if isPresent (← files.read configPath) && !force then
    return .failed "" ⟨configPath ++ " already exists. Use --force to overwrite.", []⟩
  match ← files.write configPath Config.defaultText with
  | some reason => return .failed "" ⟨"failed to write " ++ configPath, [reason]⟩
  | none => return { err := lines ["Created " ++ configPath] }

/-- The version of the program. -/
def versionText : String := "oasir 0.3.0"

/-- How the program is used. -/
def usage : String :=
  lines
    ["Usage: oasir <COMMAND>", "",
      "Commands:",
      "  validate [-i <INPUT>]                        Build the model of a document and report",
      "  inspect [-i <INPUT>] [--format yaml|json]    Print a summary of the model",
      "  init [--force]                               Write a default .oasir.yaml"]

/-- Runs a command. -/
def Command.run (files : Files m) : Command → m Exit
  | validate input => do
    match ← openProject files input with
    | .error f => return .failed "" f
    | .ok p => return Cli.validate p
  | inspect input format => do
    match ← openProject files input with
    | .error f => return .failed "" f
    | .ok p => return Cli.inspect format p
  | init force => Cli.init files force
  | version => return { out := lines [versionText] }
  | help => return { out := usage }

/-- Runs a command line. -/
def run (files : Files m) (args : List String) : m Exit :=
  match parse args with
  | .ok command => command.run files
  | .error .help => return { out := usage }
  | .error .misuse => return { code := 2, err := usage }

end Cli

end ApiModel
