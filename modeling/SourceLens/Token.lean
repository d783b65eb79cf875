import SourceLens.Text.Quoted

/-! # Classified spans of source text -/
namespace SourceLens

/-- The closed set of classes; `unknown` is the class of text that no rule accepts. -/
inductive TokenKind
  | keyword | identifier | string | comment | operator | number | whitespace | unknown
deriving DecidableEq, Repr

namespace TokenKind

def all : List TokenKind :=
  [keyword, identifier, string, comment, operator, number, whitespace, unknown]

/-- The name in capitals, for tables. -/
def label : TokenKind → String
  | keyword => "KEYWORD"
  | identifier => "IDENTIFIER"
  | string => "STRING"
  | comment => "COMMENT"
  | operator => "OPERATOR"
  | number => "NUMBER"
  | whitespace => "WHITESPACE"
  | unknown => "UNKNOWN"

/-- The name with one capital, for structured output. -/
def title : TokenKind → String
  | keyword => "Keyword"
  | identifier => "Identifier"
  | string => "String"
  | comment => "Comment"
  | operator => "Operator"
  | number => "Number"
  | whitespace => "Whitespace"
  | unknown => "Unknown"

theorem label_injective {a b : TokenKind} (h : a.label = b.label) : a = b := by
  cases a <;> cases b <;> first | rfl | exact absurd h (by decide)

def ofLabel? (label : String) : Option TokenKind := all.find? fun kind => kind.label == label

end TokenKind

structure Token where
  kind : TokenKind
  text : String
deriving DecidableEq, Repr

namespace Token

def isTrivia (t : Token) : Bool := t.kind == .whitespace || t.kind == .comment

def isOperator (t : Token) (spelling : String) : Bool :=
  t.kind == .operator && t.text == spelling

def isKeyword (t : Token) (spelling : String) : Bool :=
  t.kind == .keyword && t.text == spelling

/-- The kind's label and the text between apostrophes; white space is quoted with escapes. -/
def describe (t : Token) : String :=
  match t.kind with
  | .whitespace => t.kind.label ++ " " ++ Text.quoted t.text
  | _ => t.kind.label ++ " '" ++ t.text ++ "'"

/-- The text as tables show it: quoted with escapes for white space and for any text that holds a
control character, so that a token keeps to one row. -/
def displayValue (t : Token) : String :=
  if t.kind = .whitespace ∨ t.text.toList.any Text.isControl then Text.quoted t.text else t.text

end Token

end SourceLens
