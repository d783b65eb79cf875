import SourceLens.CommandLine.Arguments
import SourceLens.CommandLine.FileTree
import SourceLens.Language.Path
import SourceLens.Viewer

/-! # Running a command line -/
namespace SourceLens.CommandLine

inductive RunError
  | readSource (path : String) (cause : ReadFailure)
  | inputOutput (cause : ReadFailure)
deriving DecidableEq, Repr

namespace RunError

def message : RunError → String
  | readSource path cause => "failed to read '" ++ path ++ "': " ++ cause.message
  | inputOutput cause => "I/O error: " ++ cause.message

/-- The failure with its parts named, as a run reports it when it ends. -/
def detail : RunError → String
  | readSource path cause =>
    "ReadSource \x7b path: " ++ Text.quoted path ++ ", source: " ++ cause.detail ++ " \x7d"
  | inputOutput cause => "Io(" ++ cause.detail ++ ")"

end RunError

inductive Outcome
  | output (text : String)
  | usage (error : UsageError)
  | failure (error : RunError)
  | viewer (source : String) (file : Option String) (language : Language)
deriving DecidableEq, Repr

namespace Outcome

def exitCode : Outcome → UInt32
  | output _ | viewer .. => 0
  | usage _ => 2
  | failure _ => 1

/-- What is written to the standard output. The viewer is shown as it starts, on a screen of 80
columns and 24 rows. -/
def stdout : Outcome → String
  | output text => text
  | usage _ | failure _ => ""
  | viewer source file language =>
    let origin := (file.map Origin.file).getD .sample
    let screen := ((Viewer.start source origin language).render 80 24).2
    String.join (screen.rows.map fun row => Screen.rowText row ++ "\n")

def stderr : Outcome → String
  | output _ | viewer .. => ""
  | usage error => error.message ++ "\n"
  | failure error => "Error: " ++ error.detail ++ "\n"

end Outcome

def versionLine : String := "codescope 0.1.0\n"

namespace Request

/-- The language asked for, or else that of the file's path, or else the default one. -/
def effectiveLanguage (request : Request) : Language :=
  request.language.getD ((request.file.map Language.ofPath).getD default)

def finish (request : Request) (source : String) : Outcome :=
  match request.dump with
  | some covered =>
    .output (Report.render (analyze source request.effectiveLanguage) covered
      (request.format.getD .text))
  | none => .viewer source request.file request.effectiveLanguage

/-- Reads the source text, or takes the sample where no file is named, and goes on. -/
def run (request : Request) (read : String → Except ReadFailure String) : Outcome :=
  match request.file with
  | none => request.finish request.effectiveLanguage.sample
  | some path =>
    match read path with
    | .ok source => request.finish source
    | .error cause => .failure (.readSource path cause)

end Request

def run (arguments : List String) (read : String → Except ReadFailure String) : Outcome :=
  match Command.parse arguments with
  | .error error => .usage error
  | .ok .version => .output versionLine
  | .ok (.run request) => request.run read

end SourceLens.CommandLine
