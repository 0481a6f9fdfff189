import ApiModel.Model.Summary

/-!
# Command lines

What a user may ask for: to validate a document, to inspect its model, to write a configuration
file, or the version of the program.  An option has a long name, after two hyphens, and may have a
short one of one letter; its value stands behind an equals sign or as the next argument, and behind
a short name also at once.  No option may be given twice.
-/

namespace ApiModel.Cli

/-- What a user asks for. -/
inductive Command where
  /-- Whether a document has a model. -/
  | validate (input : Option String)
  /-- The summary of the model of a document. -/
  | inspect (input : Option String) (format : Syntax)
  /-- A new configuration file. -/
  | init (force : Bool)
  /-- The version of the program. -/
  | version
  /-- How the program is used. -/
  | help
  deriving DecidableEq, Repr

/-- An option of a command. -/
structure Flag where
  /-- The long name. -/
  long : String
  /-- The short name. -/
  short : Option Char := none
  /-- Whether a text may be its value; no test means that it has no value. -/
  accepts : Option (String → Bool) := none

/-- Why a command line has no command. -/
inductive Stop where
  /-- It makes no sense. -/
  | misuse
  /-- It asks for help. -/
  | help
  deriving DecidableEq, Repr

/-- The options that are given, by long name, with their values. -/
abbrev Given := List (String × String)

/-- Adds an option with a value. -/
def give (found : Given) (flag : Flag) (value : String) : Except Stop Given :=
  if Entries.has found flag.long then .error .misuse
  else if flag.accepts.all (· value) then .ok (found ++ [(flag.long, value)])
  else .error .misuse

/-- Whether an argument is an option and no value. -/
def isOption (arg : String) : Bool :=
  match arg.toList with
  | '-' :: _ :: _ => true
  | _ => false

/-- The text before the first equals sign, and the text after it. -/
def splitEquals : List Char → List Char × Option (List Char)
  | [] => ([], none)
  | c :: rest =>
    if c = '=' then ([], some rest)
    else
      let (name, value) := splitEquals rest
      (c :: name, value)

/-- The options after a long one, and that one if its value is still to come. -/
def giveLong (flags : List Flag) (found : Given) (text : List Char) :
    Except Stop (Given × Option Flag) :=
  let (name, value) := splitEquals text
  match flags.find? (·.long == String.ofList name) with
  | none => .error (if String.ofList name = "help" ∧ value.isNone then .help else .misuse)
  | some flag =>
    match flag.accepts, value with
    | none, none => (give found flag "").map (·, none)
    | none, some _ => .error .misuse
    | some _, none => .ok (found, some flag)
    | some _, some v => (give found flag (String.ofList v)).map (·, none)

/-- The options after a short one, and that one if its value is still to come. -/
def giveShort (flags : List Flag) (found : Given) (letter : Char) (text : List Char) :
    Except Stop (Given × Option Flag) :=
  match flags.find? (·.short == some letter) with
  | none => .error (if letter = 'h' then .help else .misuse)
  | some flag =>
    match flag.accepts, text with
    | none, _ => .error .misuse
    | some _, [] => .ok (found, some flag)
    | some _, '=' :: v => (give found flag (String.ofList v)).map (·, none)
    | some _, v => (give found flag (String.ofList v)).map (·, none)

/-- The options of a command; the state is an option whose value is still to come. -/
def given (flags : List Flag) (found : Given) : Option Flag → List String → Except Stop Given
  | none, [] => .ok found
  | some _, [] => .error .misuse
  | some flag, arg :: rest => do
    if isOption arg then throw .misuse
    let found ← give found flag arg
    given flags found none rest
  | none, arg :: rest => do
    match arg.toList with
    | ['-', '-'] => if rest.isEmpty then return found else throw .misuse
    | '-' :: '-' :: text =>
      let (found, pending) ← giveLong flags found text
      given flags found pending rest
    | '-' :: letter :: text =>
      let (found, pending) ← giveShort flags found letter text
      given flags found pending rest
    | _ => throw .misuse

/-- The option for the path of a document. -/
def inputFlag : Flag where
  long := "input"
  short := some 'i'
  accepts := some (· != "")

/-- The option for the language of a summary. -/
def formatFlag : Flag where
  long := "format"
  accepts := some (Entries.has Syntax.names ·)

/-- The option to replace a file. -/
def forceFlag : Flag where
  long := "force"

/-- The command of a command line. -/
def parse : List String → Except Stop Command
  | "validate" :: args => do
    let found ← given [inputFlag] [] none args
    return .validate (Entries.find? "input" found)
  | "inspect" :: args => do
    let found ← given [inputFlag, formatFlag] [] none args
    let format := (Entries.find? "format" found).bind (Entries.find? · Syntax.names)
    return .inspect (Entries.find? "input" found) (format.getD .yaml)
  | "init" :: args => do
    let found ← given [forceFlag] [] none args
    return .init (Entries.has found "force")
  | arg :: _ =>
    if arg = "--version" ∨ arg.startsWith "-V" then .ok .version
    else if arg ∈ ["--help", "help"] ∨ arg.startsWith "-h" then .ok .help
    else .error .misuse
  | [] => .error .misuse

end ApiModel.Cli
