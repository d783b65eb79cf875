import SourceLens.Text.Split
import SourceLens.Text.Quoted

/-! # Reading a file by its path -/
namespace SourceLens.CommandLine

inductive ReadFailure
  | absent
  | notDirectory
  | isDirectory
  | nameTooLong
  | notText
  | other (message : String)
deriving DecidableEq, Repr

namespace ReadFailure

def systemDetail (code kind message : String) : String :=
  "Os \x7b code: " ++ code ++ ", kind: " ++ kind ++ ", message: \"" ++ message ++ "\" \x7d"

def message : ReadFailure → String
  | absent => "No such file or directory (os error 2)"
  | notDirectory => "Not a directory (os error 20)"
  | isDirectory => "Is a directory (os error 21)"
  | nameTooLong => "File name too long (os error 36)"
  | notText => "stream did not contain valid UTF-8"
  | other message => message

def detail : ReadFailure → String
  | absent => systemDetail "2" "NotFound" "No such file or directory"
  | notDirectory => systemDetail "20" "NotADirectory" "Not a directory"
  | isDirectory => systemDetail "21" "IsADirectory" "Is a directory"
  | nameTooLong => systemDetail "36" "InvalidFilename" "File name too long"
  | notText =>
    "Error \x7b kind: InvalidData, message: \"stream did not contain valid UTF-8\" \x7d"
  | other message => "Custom \x7b kind: Other, error: " ++ Text.quoted message ++ " \x7d"

end ReadFailure

def pathParts (path : String) : List String := (Text.parts '/' path.toList).map String.ofList

def staysHere (part : String) : Bool := part == "" || part == "."

def stepFrom (place : List String) (part : String) : List String :=
  if staysHere part then place else if part = ".." then place.dropLast else place ++ [part]

def trailFrom (place : List String) : List String → List (List String)
  | [] => []
  | part :: parts => stepFrom place part :: trailFrom (stepFrom place part) parts

/-- The longest name of a file, in bytes. -/
def longestName : Nat := 255

def longestPath : Nat := 4095

/-- What lies below a directory: files, each by its place and with its bytes, and directories. Of
two files in one place the first one counts. -/
structure FileTree where
  files : List (List String × ByteArray)
  directories : List (List String)

namespace FileTree

def ofList (files : List (String × ByteArray)) : FileTree :=
  let trails := files.reverse.map fun (path, bytes) => (trailFrom [] (pathParts path), bytes)
  ⟨trails.map fun (trail, bytes) => (trail.getLastD [], bytes),
    trails.flatMap fun (trail, _) => trail.dropLast⟩

def file? (tree : FileTree) (place : List String) : Option ByteArray := tree.files.lookup place

/-- Whether a place is a directory: the top one, or one on the way to a file. -/
def isDirectory (tree : FileTree) (place : List String) : Bool :=
  place.isEmpty || tree.directories.contains place

/-- Follows the parts of a path from a directory of the tree; `none` is a directory outside of it,
of which nothing more is known. -/
def follow (tree : FileTree) : Option (List String) → List String → Except ReadFailure ByteArray
  | _, [] => .error .isDirectory
  | place, part :: parts =>
    if staysHere part then tree.follow place parts
    else if part = ".." then
      match place with
      | none | some [] => tree.follow none parts
      | some place => tree.follow (some place.dropLast) parts
    else if longestName < part.utf8ByteSize then .error .nameTooLong
    else
      match place with
      | none => .error .absent
      | some place =>
        let place := place ++ [part]
        match tree.file? place with
        | some bytes => if parts.isEmpty then .ok bytes else .error .notDirectory
        | none =>
          if tree.isDirectory place then tree.follow (some place) parts else .error .absent

def bytes (tree : FileTree) (path : String) : Except ReadFailure ByteArray :=
  if longestPath < path.utf8ByteSize then .error .nameTooLong
  else tree.follow (if path.toList.head? = some '/' then none else some []) (pathParts path)

def read (tree : FileTree) (path : String) : Except ReadFailure String := do
  match String.fromUTF8? (← tree.bytes path) with
  | some text => return text
  | none => throw .notText

end FileTree

end SourceLens.CommandLine
