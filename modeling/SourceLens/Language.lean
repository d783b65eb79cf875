import SourceLens.Text.Blank

/-! # The two source languages -/
namespace SourceLens

inductive Language
  | cLike | python
deriving DecidableEq, Repr

namespace Language

instance : Inhabited Language := ⟨cLike⟩

/-- The name that output shows and that `parse?` reads back. -/
def name : Language → String
  | cLike => "c-like"
  | python => "python"

def keywords : Language → List String
  | cLike =>
    ["auto", "break", "case", "char", "const", "continue", "default", "do", "double", "else",
     "enum", "extern", "float", "for", "goto", "if", "int", "long", "register", "return", "short",
     "signed", "sizeof", "static", "struct", "switch", "typedef", "union", "unsigned", "void",
     "volatile", "while"]
  | python =>
    ["False", "None", "True", "and", "as", "assert", "async", "await", "break", "class",
     "continue", "def", "del", "elif", "else", "except", "finally", "for", "from", "global", "if",
     "import", "in", "is", "lambda", "nonlocal", "not", "or", "pass", "raise", "return", "try",
     "while", "with", "yield"]

def isKeyword (language : Language) (word : String) : Bool := language.keywords.contains word

def other : Language → Language
  | cLike => python
  | python => cLike

@[simp] theorem other_other (language : Language) : language.other.other = language := by
  cases language <;> rfl

/-- Reads a name or an alias, in any case of the ASCII letters and between any white space. -/
def parse? (input : String) : Option Language :=
  let word := String.ofList ((Text.trim input.toList).map Char.toLower)
  if word ∈ ["c-like", "clike", "c"] then some cLike
  else if word ∈ ["python", "py"] then some python
  else none

def unknownMessage (input : String) : String :=
  "unknown language '" ++ input ++ "' (expected 'c-like' or 'python')"

end Language

end SourceLens
