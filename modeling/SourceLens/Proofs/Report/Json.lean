import SourceLens.Report
import SourceLens.Proofs.Json.Grammar
import SourceLens.Proofs.Json.RoundTrip
import SourceLens.Proofs.TokenStream.Stream

/-! # What is read from a JSON report

A report is one JSON text and a new line. Its value has the language, and the tokens and the names
as far as the report covers them; a name that is not covered is not a member at all. A reader that
knows the names of the languages and of the kinds gets back the analysis itself. -/
namespace SourceLens.Report

open Json (Value read?)

/-! ## The value of a report -/

def textList (texts : List String) : Value := .array (texts.map Value.string)

def tokenValue (t : Token) : Value :=
  .object [("kind", .string t.kind.title), ("text", .string t.text)]

def tokenList (tokens : List Token) : Value := .array (tokens.map tokenValue)

def tableValue (table : SymbolTable) : Value :=
  .object [("functions", textList table.functionNames.toList),
    ("variables", textList table.variableNames.toList)]

theorem ofJson_ofStrings (texts : List String) :
    Value.ofJson (.ofStrings texts) = textList texts := by
  simp [Json.ofStrings, textList, Value.ofJson, Value.ofItems_eq_map]

theorem ofJson_tokenDocument (t : Token) : Value.ofJson (tokenDocument t) = tokenValue t := by
  simp only [tokenDocument, tokenValue, Value.ofJson, Value.ofMembers]

theorem ofJson_tokenDocuments (tokens : List Token) :
    Value.ofJson (.array (tokens.map tokenDocument)) = tokenList tokens := by
  rw [Value.ofJson, Value.ofItems_eq_map, List.map_map, tokenList]
  have h : ∀ t ∈ tokens, (Value.ofJson ∘ tokenDocument) t = tokenValue t :=
    fun t _ => ofJson_tokenDocument t
  rw [List.map_congr_left h]

theorem ofJson_symbolDocument (table : SymbolTable) :
    Value.ofJson (symbolDocument table) = tableValue table := by
  simp only [symbolDocument, tableValue, Value.ofJson, Value.ofMembers, ofJson_ofStrings]

/-- The members of a report: the language always, the tokens and the names if they are covered. -/
def members (language : Language) (analysis : Analysis) (covered : Section) :
    List (String × Value) :=
  [("language", .string language.name)] ++
    (if covered = .tokens ∨ covered = .all then [("tokens", tokenList analysis.tokens)] else []) ++
    (if covered = .symbols ∨ covered = .all then [("symbols", tableValue analysis.symbols)]
      else [])

theorem ofJson_document (analysis : Analysis) (covered : Section) :
    Value.ofJson (document analysis covered) =
      .object (members analysis.language analysis covered) := by
  unfold document
  rw [Value.ofJson, Value.ofMembers_eq_map, List.cons_append, List.map_cons, Value.ofJson]
  cases covered <;>
    simp [members, Section.hasTokens, Section.hasSymbols, ofJson_tokenDocuments,
      ofJson_symbolDocument]

theorem getLast?_pretty_object (m : String × Json) (ms : List (String × Json)) :
    (Json.pretty (.object (m :: ms))).toList.getLast? = some '\x7d' := by
  rw [Json.pretty, String.toList_ofList, Json.prettyChars_object_cons, ← List.cons_append]
  exact List.getLast?_concat

/-! ## The analysis in a value -/

/-- What a report says: the tokens and the two lists of names are there or not. -/
structure Contents where
  language : Language
  tokens : Option (List Token)
  names : Option (List String × List String)

def languageOf? : String → Option Language
  | "c-like" => some .cLike
  | "python" => some .python
  | _ => none

def kindOf? : String → Option TokenKind
  | "Keyword" => some .keyword
  | "Identifier" => some .identifier
  | "String" => some .string
  | "Comment" => some .comment
  | "Operator" => some .operator
  | "Number" => some .number
  | "Whitespace" => some .whitespace
  | "Unknown" => some .unknown
  | _ => none

def textOf? : Value → Option String
  | .string text => some text
  | _ => none

/-- The items of a list, each of which must be read. -/
def itemsOf? {α : Type} (item? : Value → Option α) : Value → Option (List α)
  | .array items => items.mapM item?
  | _ => none

/-- The member of a name. -/
def member? (name : String) : Value → Option Value
  | .object members => members.lookup name
  | _ => none

/-- What stands in a member that may be missing, but must be read if it is there. -/
def readMember? {α : Type} (name : String) (contents? : Value → Option α) (value : Value) :
    Option (Option α) :=
  match member? name value with
  | none => some none
  | some v => (contents? v).map some

def tokenOf? (value : Value) : Option Token := do
  let kind ← kindOf? (← textOf? (← member? "kind" value))
  let text ← textOf? (← member? "text" value)
  return ⟨kind, text⟩

def namesOf? (value : Value) : Option (List String × List String) := do
  return (← itemsOf? textOf? (← member? "functions" value),
    ← itemsOf? textOf? (← member? "variables" value))

def contentsOf? (value : Value) : Option Contents := do
  let language ← languageOf? (← textOf? (← member? "language" value))
  let tokens ← readMember? "tokens" (itemsOf? tokenOf?) value
  let names ← readMember? "symbols" namesOf? value
  return ⟨language, tokens, names⟩

theorem languageOf?_name (language : Language) : languageOf? language.name = some language := by
  cases language <;> rfl

theorem kindOf?_title (kind : TokenKind) : kindOf? kind.title = some kind := by
  cases kind <;> rfl

theorem itemsOf?_map {α : Type} {item? : Value → Option α} {write : α → Value}
    (h : ∀ a, item? (write a) = some a) (as : List α) :
    itemsOf? item? (.array (as.map write)) = some as := by
  rw [itemsOf?]
  induction as with
  | nil => rfl
  | cons a as ih => simp [h, ih]

theorem tokenOf?_tokenValue (t : Token) : tokenOf? (tokenValue t) = some t := by
  simp [tokenOf?, tokenValue, member?, List.lookup_cons, textOf?, kindOf?_title]

theorem itemsOf?_tokenList (tokens : List Token) :
    itemsOf? tokenOf? (tokenList tokens) = some tokens :=
  itemsOf?_map tokenOf?_tokenValue tokens

theorem itemsOf?_textList (texts : List String) : itemsOf? textOf? (textList texts) = some texts :=
  @itemsOf?_map _ textOf? Value.string (fun _ => rfl) texts

theorem namesOf?_tableValue (table : SymbolTable) :
    namesOf? (tableValue table) =
      some (table.functionNames.toList, table.variableNames.toList) := by
  simp [namesOf?, tableValue, member?, List.lookup_cons, itemsOf?_textList]

/-- What a report on an analysis says. -/
def contents (language : Language) (analysis : Analysis) (covered : Section) : Contents where
  language := language
  tokens := if covered = .tokens ∨ covered = .all then some analysis.tokens else none
  names :=
    if covered = .symbols ∨ covered = .all then
      some (analysis.symbols.functionNames.toList, analysis.symbols.variableNames.toList)
    else none

theorem contentsOf?_members (language : Language) (analysis : Analysis) (covered : Section) :
    contentsOf? (.object (members language analysis covered)) =
      some (contents language analysis covered) := by
  cases covered <;>
    simp [contentsOf?, members, contents, readMember?, member?, List.lookup_cons, textOf?,
      languageOf?_name, itemsOf?_tokenList, namesOf?_tableValue]

/-- A JSON report is a JSON text, up to its closing brace, and one new line. The text stands for an
object of the language's name, of the tokens in order if they are covered, and of the names if they
are, and it is read as this object with the new line or without. The object tells the language, each
kind and text, and each name. -/
theorem read_render_json (source : String) (language : Language) (covered : Section) :
    let analysis := analyze source language
    let value := Value.object (members language analysis covered)
    ∃ text, render analysis covered .json = text ++ "\n" ∧
      text.toList.getLast? = some '\x7d' ∧ Json.IsText value text.toList ∧
      read? text = some value ∧ read? (text ++ "\n") = some value ∧
      contentsOf? value = some (contents language analysis covered) ∧
      spell analysis.tokens = source := by
  intro analysis value
  have hread : ∀ blanks : String, blanks.toList.all Json.isBlank →
      read? ((document analysis covered).pretty ++ blanks) = some value := by
    intro blanks hblanks
    rw [Json.read?_pretty_append _ hblanks, ofJson_document]
    rfl
  have hbare : read? (document analysis covered).pretty = some value := by
    have h := hread "" (by decide)
    rwa [String.append_empty] at h
  exact ⟨_, rfl, getLast?_pretty_object _ _, Json.isText_of_read? hbare, hbare,
    hread "\n" (by decide), contentsOf?_members _ _ _, spell_tokenize source language⟩

end SourceLens.Report
