/-! # JSON documents and their two printed forms -/
namespace SourceLens

/-- A JSON document without numbers, truth values and nulls. -/
inductive Json
  | string (text : String)
  | array (items : List Json)
  | object (members : List (String × Json))

namespace Json

def ofStrings (texts : List String) : Json := array (texts.map string)

def hexPair (n : Nat) : List Char := [Nat.digitChar (n / 16), Nat.digitChar (n % 16)]

def escaped (c : Char) : List Char :=
  if c = '"' then ['\\', '"']
  else if c = '\\' then ['\\', '\\']
  else if c = '\x08' then ['\\', 'b']
  else if c = '\x0c' then ['\\', 'f']
  else if c = '\n' then ['\\', 'n']
  else if c = '\r' then ['\\', 'r']
  else if c = '\t' then ['\\', 't']
  else if c.toNat < 0x20 then '\\' :: 'u' :: '0' :: '0' :: hexPair c.toNat
  else [c]

def literal (text : String) : List Char := '"' :: text.toList.flatMap escaped ++ ['"']

mutual

def compactChars : Json → List Char
  | string text => literal text
  | array items => '[' :: compactItems items ++ [']']
  | object members => '\x7b' :: compactMembers members ++ ['\x7d']

def compactItems : List Json → List Char
  | [] => []
  | [item] => compactChars item
  | item :: items => compactChars item ++ ',' :: compactItems items

def compactMembers : List (String × Json) → List Char
  | [] => []
  | [(name, value)] => literal name ++ ':' :: compactChars value
  | (name, value) :: members =>
    literal name ++ ':' :: compactChars value ++ ',' :: compactMembers members

end

def newLine (depth : Nat) : List Char := '\n' :: List.replicate (2 * depth) ' '

mutual

/-- The form with an item or member a line, at a depth; what is empty stays on one line. -/
def prettyChars (depth : Nat) : Json → List Char
  | string text => literal text
  | array [] => ['[', ']']
  | array (item :: items) =>
    '[' :: newLine (depth + 1) ++ prettyChars (depth + 1) item ++ prettyItems (depth + 1) items ++
      newLine depth ++ [']']
  | object [] => ['\x7b', '\x7d']
  | object ((name, value) :: members) =>
    '\x7b' :: newLine (depth + 1) ++ literal name ++ ':' :: ' ' :: prettyChars (depth + 1) value ++
      prettyMembers (depth + 1) members ++ newLine depth ++ ['\x7d']

def prettyItems (depth : Nat) : List Json → List Char
  | [] => []
  | item :: items => ',' :: newLine depth ++ prettyChars depth item ++ prettyItems depth items

def prettyMembers (depth : Nat) : List (String × Json) → List Char
  | [] => []
  | (name, value) :: members =>
    ',' :: newLine depth ++ literal name ++ ':' :: ' ' :: prettyChars depth value ++
      prettyMembers depth members

end

def compact (document : Json) : String := String.ofList document.compactChars

def pretty (document : Json) : String := String.ofList (document.prettyChars 0)

end Json

end SourceLens
