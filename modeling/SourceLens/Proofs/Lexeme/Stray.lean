import SourceLens.Proofs.Lexeme.Form
import SourceLens.Proofs.Lexeme.Quoted

/-! # Characters that start no lexeme

There are three reasons why all rules fail at a character. Such a character is an unknown token. -/
namespace SourceLens

open Text Pattern

variable {language : Language} {s : List Char} {c : Char}

/-- Why no lexeme starts with a character in front of a text. -/
inductive Stray (language : Language) (c : Char) (s : List Char) : Prop
  /-- The character belongs to digits that a letter or an underscore follows. -/
  | digit {x rest : List Char} {d : Char} (digits : Digits x) (word : isWordStart d = true)
      (text : c :: s = x ++ d :: rest)
  /-- The character is a quote that nothing closes. -/
  | quote (mark : c = '"' ∨ c = '\'')
      (unclosed : ∀ body rest, QuotedBody c body → s ≠ body ++ c :: rest)
  /-- No lexeme begins with the character. -/
  | foreign (blank : isSourceBlank c = false) (operator : c ∉ singleOperators.toList)
      (word : isWordChar c = false) (mark : c ≠ '"' ∧ c ≠ '\'')
      (hash : language = .python → c ≠ '#')

theorem lineMark_prefix_singleton_iff :
    language.lineMark <+: [c] ↔ language = .python ∧ c = '#' := by
  cases language <;> simp [Language.lineMark, eq_comm]

namespace Stray

theorem of_runsIntoWord (hc : c.isDigit = true) (h : RunsIntoWord (c :: s)) :
    Stray language c s := by
  obtain ⟨x, d, rest, hx, hd, hs⟩ := runsIntoWord_iff.1 h
  refine .digit ⟨?_, hx⟩ hd hs
  rintro rfl
  obtain rfl : c = d := (List.cons.inj hs).1
  rw [isWordStart_eq_false_of_isDigit hc] at hd
  cases hd

theorem of_closeQuote? (hc : c = '"' ∨ c = '\'') (h : closeQuote? c s = none) :
    Stray language c s :=
  .quote hc ((closeQuote?_eq_none_iff (ne_backslash_of_quote hc)).1 h)

theorem of_lexeme? (h : lexeme? language (c :: s) = none) : Stray language c s := by
  obtain ⟨⟨d, hd, hblank, hoperator, hword, hmark⟩, hnumber, hquoted⟩ := form_lone_of_lexeme? h
  obtain rfl : c = d := List.singleton_inj.1 hd
  rw [lineMark_prefix_singleton_iff, not_and] at hmark
  by_cases hdigit : c.isDigit = true
  · exact .of_runsIntoWord hdigit ((splitNumber?_digit_eq_none_iff hdigit).1 hnumber)
  · by_cases hquote : c = '"' ∨ c = '\''
    · exact .of_closeQuote? hquote (splitQuoted?_eq_none_iff.1 hquoted c s rfl hquote)
    · refine .foreign hblank hoperator ?_ (not_or.1 hquote) hmark
      rw [← Bool.not_eq_true, isWordChar_iff, hword]
      simp [hdigit]

/-- A digit that is stray runs into a word. -/
theorem runsIntoWord_of_digits {x rest : List Char} {d : Char} (digits : Digits x)
    (word : isWordStart d = true) (text : c :: s = x ++ d :: rest) :
    c.isDigit = true ∧ RunsIntoWord (c :: s) := by
  refine ⟨?_, runsIntoWord_iff.2 ⟨x, d, rest, digits.2, word, text⟩⟩
  obtain ⟨e, x, rfl⟩ := List.exists_cons_of_ne_nil digits.1
  obtain rfl : c = e := (List.cons.inj text).1
  exact digits.2 c List.mem_cons_self

theorem fits (h : Stray language c s) : Form.lone.Fits language [c] := by
  suffices hc : isSourceBlank c = false ∧ c ∉ singleOperators.toList ∧ isWordStart c = false ∧
      (language = .python → c ≠ '#') by
    rw [← not_and, ← lineMark_prefix_singleton_iff] at hc
    exact ⟨c, rfl, hc⟩
  cases h with
  | digit digits word text =>
    obtain ⟨hdigit, -⟩ := runsIntoWord_of_digits digits word text
    have hword := isWordChar_of_isDigit hdigit
    obtain ⟨hoperator, -, -, -, hhash⟩ := of_isWordChar hword
    exact ⟨(isVisible_of_isWordChar hword).not_blank, hoperator,
      isWordStart_eq_false_of_isDigit hdigit, fun _ => hhash⟩
  | quote mark unclosed =>
    refine ⟨(isVisible_of_quote mark).not_blank, ?_⟩
    rcases mark with rfl | rfl <;> exact ⟨by decide, by decide, fun _ => by decide⟩
  | foreign blank operator word mark hash =>
    refine ⟨blank, operator, ?_, hash⟩
    rw [← Bool.not_eq_true] at word ⊢
    exact mt isWordChar_of_isWordStart word

theorem ends (h : Stray language c s) : Form.lone.Ends language [c] s := by
  cases h with
  | digit digits word text =>
    obtain ⟨hdigit, hrun⟩ := runsIntoWord_of_digits digits word text
    obtain ⟨-, hq₁, hq₂, -, -⟩ := of_isWordChar (isWordChar_of_isDigit hdigit)
    exact ⟨(splitNumber?_digit_eq_none_iff hdigit).2 hrun, splitQuoted?_eq_none_of_ne hq₁ hq₂ s⟩
  | quote mark unclosed =>
    constructor
    · apply splitNumber?_cons_eq_none
      rcases mark with rfl | rfl <;> decide
    · rw [List.singleton_append, splitQuoted?_eq_none_iff]
      intro q t hs hq
      obtain ⟨rfl, rfl⟩ := List.cons.inj hs
      exact (closeQuote?_eq_none_iff (ne_backslash_of_quote hq)).2 unclosed
  | foreign blank operator word mark hash =>
    exact ⟨splitNumber?_cons_eq_none (isDigit_eq_false_of_isWordChar word) s,
      splitQuoted?_eq_none_of_ne mark.1 mark.2 s⟩

end Stray

/-- The rules fail for the three reasons only. -/
theorem lexeme?_eq_none_iff : lexeme? language (c :: s) = none ↔ Stray language c s :=
  ⟨Stray.of_lexeme?, fun h => Form.lexeme?_lone h.fits h.ends⟩

theorem Stray.nextToken? (h : Stray language c s) :
    nextToken? language (c :: s) = some (⟨.unknown, String.singleton c⟩, s) :=
  nextToken?_of_lexeme?_eq_none (lexeme?_eq_none_iff.2 h)

end SourceLens
