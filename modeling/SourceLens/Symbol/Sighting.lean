import SourceLens.Language
import SourceLens.Token
import SourceLens.Symbol.Table

/-! # Signs of functions and variables in a token stream

Each token, seen with what follows it, is a sign of at most one name. White space is skipped when
looking ahead; comments are not. -/
namespace SourceLens

/-- What the place of a token says about a name. -/
inductive Sighting
  | function (name : String)
  | declaration (name : String)
  /-- The name is assigned or indexed like a variable, unless it is known as a function. -/
  | use (name : String)
deriving DecidableEq, Repr

def typeSpecifiers : List String :=
  ["char", "double", "float", "int", "long", "short", "signed", "struct", "union", "unsigned",
   "void", "const", "volatile", "auto"]

/-- The first token that is not white space. -/
def ahead? (rest : List Token) : Option Token := rest.find? fun t => t.kind != .whitespace

def followedBy (rest : List Token) (spelling : String) : Bool :=
  (ahead? rest).any fun t => t.isOperator spelling

/-- The identifier behind white space and stars, unless an opening parenthesis follows it. -/
def declarator? : List Token → Option String
  | [] => none
  | t :: rest =>
    if t.kind = .whitespace ∨ t.isOperator "*" then declarator? rest
    else if t.kind = .identifier ∧ ¬followedBy rest "(" then some t.text
    else none

namespace Sighting

/-- The sign that a token of C-like source gives: an identifier before `(` is a function, one
before `=` or `[` is used, and a type specifier declares the identifier behind it. -/
def inCLike? (t : Token) (rest : List Token) : Option Sighting :=
  match t.kind with
  | .identifier =>
    if followedBy rest "(" then some (function t.text)
    else if followedBy rest "=" || followedBy rest "[" then some (use t.text)
    else none
  | .keyword => if t.text ∈ typeSpecifiers then (declarator? rest).map declaration else none
  | _ => none

/-- The sign that a token of Python source gives: `def` defines the identifier behind it, and an
identifier before `=` is used. -/
def inPython? (t : Token) (rest : List Token) : Option Sighting :=
  match t.kind with
  | .keyword =>
    if t.text = "def" then
      (ahead? rest).bind fun name =>
        if name.kind = .identifier then some (function name.text) else none
    else none
  | .identifier => if followedBy rest "=" then some (use t.text) else none
  | _ => none

def of? (language : Language) (t : Token) (rest : List Token) : Option Sighting :=
  match language with
  | .cLike => inCLike? t rest
  | .python => inPython? t rest

def all (language : Language) : List Token → List Sighting
  | [] => []
  | t :: rest => (of? language t rest).toList ++ all language rest

def functionNames : List Sighting → List String
  | [] => []
  | function name :: signs => name :: functionNames signs
  | _ :: signs => functionNames signs

/-- The names declared as variables, or used before they were seen as functions; `known` are the
functions seen so far. -/
def variableNames : List String → List Sighting → List String
  | _, [] => []
  | known, function name :: signs => variableNames (name :: known) signs
  | known, declaration name :: signs => name :: variableNames known signs
  | known, use name :: signs =>
    if name ∈ known then variableNames known signs else name :: variableNames known signs

end Sighting

def SymbolTable.ofTokens (tokens : List Token) (language : Language) : SymbolTable :=
  let signs := Sighting.all language tokens
  ofNames (Sighting.functionNames signs) (Sighting.variableNames [] signs)

end SourceLens
