import SourceLens.Lexeme.Pattern
import SourceLens.Language
import SourceLens.Token

/-! # The rule table

The first rule that cuts off a lexeme wins, even where a later rule would take more text. -/
namespace SourceLens

inductive Scope
  | all
  | only (language : Language)
deriving DecidableEq, Repr

def Scope.includes : Scope → Language → Bool
  | all, _ => true
  | only l, language => l == language

structure Rule where
  kind : TokenKind
  pattern : Pattern
  scope : Scope
deriving DecidableEq, Repr

namespace Rule

/-- Cuts a lexeme off the text; an empty lexeme is none. -/
def split? (rule : Rule) (language : Language) (s : List Char) :
    Option (List Char × List Char) :=
  if rule.scope.includes language then
    (rule.pattern.split? s).filter fun (lexeme, _) => !lexeme.isEmpty
  else none

def matchLength? (rule : Rule) (language : Language) (s : String) : Option Nat :=
  (rule.split? language s.toList).map fun (lexeme, _) => Text.utf8Length lexeme

theorem append_of_split? {rule : Rule} {language : Language} {s lexeme rest : List Char}
    (h : rule.split? language s = some (lexeme, rest)) : lexeme ++ rest = s := by
  unfold split? at h
  split at h
  · exact Pattern.append_of_split? (Option.eq_some_of_filter_eq_some h)
  · cases h

theorem ne_nil_of_split? {rule : Rule} {language : Language} {s lexeme rest : List Char}
    (h : rule.split? language s = some (lexeme, rest)) : lexeme ≠ [] := by
  unfold split? at h
  split at h
  · simpa using (Option.filter_eq_some_iff.1 h).2
  · cases h

/-- The rules in the order in which they are tried. -/
def table : List Rule := [
  ⟨.whitespace, .whitespace, .all⟩,
  ⟨.comment, .lineComment "//", .only .cLike⟩,
  ⟨.comment, .blockComment "/*" "*/", .only .cLike⟩,
  ⟨.comment, .lineComment "#", .only .python⟩,
  ⟨.string, .tripleQuotedString, .only .python⟩,
  ⟨.string, .quotedString, .all⟩,
  ⟨.number, .number, .all⟩,
  ⟨.operator, .operator, .all⟩,
  ⟨.identifier, .identifier, .all⟩]

end Rule

end SourceLens
