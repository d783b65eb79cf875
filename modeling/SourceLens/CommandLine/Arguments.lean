import SourceLens.Report

/-! # The arguments of the command line

Arguments are read from left to right and the first fault ends the reading, so the version option
counts only if nothing before it is wrong. -/
namespace SourceLens.CommandLine

inductive ValueOption
  | language | dump | format
deriving DecidableEq, Repr

namespace ValueOption

def longName : ValueOption → String
  | language => "language"
  | dump => "dump"
  | format => "format"

def ofLongName? (name : List Char) : Option ValueOption :=
  [language, dump, format].find? fun option => option.longName.toList == name

end ValueOption

structure Request where
  language : Option Language := none
  dump : Option Section := none
  format : Option Format := none
  file : Option String := none
deriving DecidableEq, Repr

inductive UsageError
  | unknownOption (argument : String)
  | missingValue (option : ValueOption)
  | invalidValue (option : ValueOption) (value : String)
  | repeatedOption (option : ValueOption)
  | emptyFile
  | secondFile (argument : String)
deriving DecidableEq, Repr

def UsageError.message : UsageError → String
  | unknownOption argument => "unexpected argument '" ++ argument ++ "'"
  | missingValue option => "a value is required for '--" ++ option.longName ++ "'"
  | invalidValue option value => "invalid value '" ++ value ++ "' for '--" ++ option.longName ++ "'"
  | repeatedOption option => "'--" ++ option.longName ++ "' cannot be used twice"
  | emptyFile => "the name of the file is empty"
  | secondFile argument => "unexpected second file '" ++ argument ++ "'"

inductive Command
  | version
  | run (request : Request)
deriving DecidableEq, Repr

/-- The form of one argument in front of the `--` that ends the options. -/
inductive Argument
  | separator
  | version
  | option (option : ValueOption)
  | setting (option : ValueOption) (value : String)
  | file (name : String)
  | unknown
deriving DecidableEq, Repr

namespace Argument

def ofLong (body : List Char) : Argument :=
  let name := body.takeWhile (· != '=')
  match body.dropWhile (· != '='), ValueOption.ofLongName? name with
  | [], some o => option o
  | _ :: value, some o => setting o (String.ofList value)
  | [], none => if name = "version".toList then version else unknown
  | _ :: _, none => unknown

/-- An argument behind one dash: the version flag, which ends the reading whatever stands behind
it, or the language option with or without its value. -/
def ofShort : List Char → Argument
  | 'V' :: _ => version
  | ['l'] => option .language
  | 'l' :: '=' :: value => setting .language (String.ofList value)
  | 'l' :: value => setting .language (String.ofList value)
  | _ => unknown

/-- The form of an argument; a lone dash is a file name. -/
def of (argument : String) : Argument :=
  match argument.toList with
  | ['-', '-'] => separator
  | '-' :: '-' :: body => ofLong body
  | ['-'] => file argument
  | '-' :: body => ofShort body
  | _ => file argument

end Argument

namespace Request

def set (request : Request) (option : ValueOption) (value : String) :
    Except UsageError Request :=
  match option with
  | .language =>
    if request.language.isSome then .error (.repeatedOption option)
    else match Language.parse? value with
      | some language => .ok { request with language := some language }
      | none => .error (.invalidValue option value)
  | .dump =>
    if request.dump.isSome then .error (.repeatedOption option)
    else match Section.parse? false value with
      | some covered => .ok { request with dump := some covered }
      | none => .error (.invalidValue option value)
  | .format =>
    if request.format.isSome then .error (.repeatedOption option)
    else match Format.parse? false value with
      | some format => .ok { request with format := some format }
      | none => .error (.invalidValue option value)

def setFile (request : Request) (name : String) : Except UsageError Request :=
  if request.file.isSome then .error (.secondFile name)
  else if name = "" then .error .emptyFile
  else .ok { request with file := some name }

def setFiles (request : Request) : List String → Except UsageError Request
  | [] => .ok request
  | name :: names => do (← request.setFile name).setFiles names

end Request

/-- Whether an argument can be the value of the option before it: it is a lone dash or does not
start with a dash. -/
def isValue (argument : String) : Bool :=
  match argument.toList with
  | '-' :: _ :: _ => false
  | _ => true

def readArguments (request : Request) : List String → Except UsageError Command
  | [] => .ok (.run request)
  | argument :: rest =>
    match Argument.of argument with
    | .separator => do return .run (← request.setFiles rest)
    | .version => .ok .version
    | .option option =>
      match rest with
      | [] => .error (.missingValue option)
      | value :: rest =>
        if isValue value then do readArguments (← request.set option value) rest
        else .error (.missingValue option)
    | .setting option value => do readArguments (← request.set option value) rest
    | .file name => do readArguments (← request.setFile name) rest
    | .unknown => .error (.unknownOption argument)

def Command.parse (arguments : List String) : Except UsageError Command :=
  readArguments {} arguments

end SourceLens.CommandLine
