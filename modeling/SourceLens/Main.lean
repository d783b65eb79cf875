import SourceLens.CommandLine.Run

/-! # The program -/
namespace SourceLens.CommandLine

/-- The failure that an error of the operating system stands for. A directory can be opened, and
fails without a name when it is read. -/
def ReadFailure.ofError : IO.Error → ReadFailure
  | .noFileOrDirectory .. => .absent
  | .inappropriateType none .. => .isDirectory
  | .inappropriateType (some _) .. => .notDirectory
  | .invalidArgument (some _) .. => .nameTooLong
  | error => .other (toString error)

def readFile (path : String) : IO (Except ReadFailure String) := do
  try
    match String.fromUTF8? (← IO.FS.readBinFile path) with
    | some text => return .ok text
    | none => return .error .notText
  catch error => return .error (.ofError error)

/-- Reads the file that a command names, if it names one, and runs the command. -/
def perform (command : Command) : IO Outcome := do
  match command with
  | .version => return .output versionLine
  | .run request =>
    match request.file with
    | none => return request.run fun _ => .error .absent
    | some path =>
      let contents ← readFile path
      return request.run fun _ => contents

def conclude (outcome : Outcome) : IO UInt32 := do
  IO.print outcome.stdout
  IO.eprint outcome.stderr
  return outcome.exitCode

end SourceLens.CommandLine

open SourceLens.CommandLine in
def main (arguments : List String) : IO UInt32 := do
  match Command.parse arguments with
  | .error error => conclude (.usage error)
  | .ok command => conclude (← perform command)
