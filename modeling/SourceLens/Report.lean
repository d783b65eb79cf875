import SourceLens.Analysis
import SourceLens.Json
import SourceLens.Text.Pad

/-! # Reports on an analysis, as text or as JSON -/
namespace SourceLens

inductive Section
  | tokens | symbols | all
deriving DecidableEq, Repr

namespace Section

def hasTokens (s : Section) : Bool := s != .symbols

def hasSymbols (s : Section) : Bool := s != .tokens

def name : Section → String
  | tokens => "tokens"
  | symbols => "symbols"
  | all => "all"

end Section

inductive Format
  | text | json
deriving DecidableEq, Repr

def Format.name : Format → String
  | text => "text"
  | json => "json"

/-- Whether a word is a name, which it may be in any case of the ASCII letters if case is
ignored. -/
def isNamed (ignoreCase : Bool) (word name : String) : Bool :=
  if ignoreCase then word.toList.map Char.toLower == name.toList.map Char.toLower
  else word == name

def Section.parse? (ignoreCase : Bool) (word : String) : Option Section :=
  [Section.tokens, .symbols, .all].find? fun s => isNamed ignoreCase word s.name

def Format.parse? (ignoreCase : Bool) (word : String) : Option Format :=
  [Format.text, .json].find? fun f => isNamed ignoreCase word f.name

namespace Report

def kindWidth : Nat := (TokenKind.all.map fun kind => kind.label.length).foldl max 0

def tokenRow (t : Token) : String :=
  Text.padRight kindWidth t.kind.label ++ "  " ++ t.displayValue ++ "\n"

def tokenTable (tokens : List Token) : String := String.join (tokens.map tokenRow)

/-- A heading and the names below it, or a remark that there are none. -/
def nameList (heading : String) (names : List String) : String :=
  heading ++ ":\n" ++
    match names with
    | [] => "  (none)\n"
    | names => String.join (names.map fun name => "  " ++ name ++ "\n")

def symbolTable (table : SymbolTable) : String :=
  nameList "Functions" table.functionNames.toList ++ nameList "Variables" table.variableNames.toList

/-- The report as text; an empty line stands between two sections. -/
def text (analysis : Analysis) (covered : Section) : String :=
  let tokens :=
    if covered.hasTokens then
      "Tokens (" ++ analysis.language.name ++ ", " ++ toString analysis.tokens.length ++
        " total)\n" ++ tokenTable analysis.tokens
    else ""
  if covered.hasSymbols then
    tokens ++ (if tokens.isEmpty then "" else "\n") ++ symbolTable analysis.symbols
  else tokens

def tokenDocument (t : Token) : Json :=
  .object [("kind", .string t.kind.title), ("text", .string t.text)]

def symbolDocument (table : SymbolTable) : Json :=
  .object [("functions", .ofStrings table.functionNames.toList),
    ("variables", .ofStrings table.variableNames.toList)]

def document (analysis : Analysis) (covered : Section) : Json :=
  let tokens := ("tokens", .array (analysis.tokens.map tokenDocument))
  let symbols := ("symbols", symbolDocument analysis.symbols)
  .object (("language", .string analysis.language.name) ::
    (if covered.hasTokens then [tokens] else []) ++
    (if covered.hasSymbols then [symbols] else []))

def render (analysis : Analysis) (covered : Section) : Format → String
  | .text => text analysis covered
  | .json => (document analysis covered).pretty ++ "\n"

inductive RequestError
  | badSection (word : String)
  | badFormat (word : String)
  | badLanguage (word : String)
deriving DecidableEq, Repr

def RequestError.message : RequestError → String
  | badSection word | badFormat word => "invalid variant: " ++ word
  | badLanguage word => Language.unknownMessage word

/-- The report on a source text, asked for by names; the section is looked at first, then the
format, then the language. -/
def ofRequest (source language covered format : String) (ignoreCase : Bool) :
    Except RequestError String := do
  let some covered := Section.parse? ignoreCase covered | throw (.badSection covered)
  let some format := Format.parse? ignoreCase format | throw (.badFormat format)
  let some language := Language.parse? language | throw (.badLanguage language)
  return render (analyze source language) covered format

end Report

end SourceLens
