import ApiModel.Cli.Run

/-!
# The program

The files of the current directory, and the streams of the process.
-/

namespace ApiModel

/-- The number of an error of the system; some calls give it negated. -/
def Cli.errorNumber (number : UInt32) : UInt32 :=
  if number < 0x80000000 then number else 0 - number

/-- What the system says about an error, with its number. -/
def Cli.systemReason (details : String) (number : UInt32) : String :=
  details.capitalize ++ " (os error " ++ toString (errorNumber number) ++ ")"

/-- Why a file cannot be written. -/
def Cli.writeReason : IO.Error → String
  | .noFileOrDirectory _ number details => systemReason details number
  | .inappropriateType _ number details => systemReason details number
  | .permissionDenied _ number details => systemReason details number
  | e => toString e

/-- Why a file cannot be read. -/
def Cli.readError : IO.Error → ReadError
  | .noFileOrDirectory .. => .missing
  | .inappropriateType _ number _ =>
    if errorNumber number = 20 then .notDirectory else .directory
  | .invalidArgument _ number _ =>
    if errorNumber number = 36 then .nameTooLong else .nullInName
  | e => .other (writeReason e)

/-- The files that the process can reach. -/
def Cli.processFiles : Cli.Files IO where
  read path := do
    try
      let bytes ← IO.FS.readBinFile path
      match String.fromUTF8? bytes with
      | some text => return .ok text
      | none => return .error .notText
    catch e => return .error (readError e)
  write path text := do
    try
      IO.FS.writeFile path text
      return none
    catch e => return some (writeReason e)

end ApiModel

/-- Runs the command line of the process. -/
def main (args : List String) : IO UInt32 := do
  let exit ← ApiModel.Cli.run ApiModel.Cli.processFiles args
  IO.eprint exit.err
  IO.print exit.out
  return exit.code.toUInt32
