import SourceLens.Proofs.TokenStream.Unknown
import Mathlib.Data.List.Forall2

/-! # What the languages have in common

The languages differ in their comments, in triple-quoted strings and in the words that they reserve.
In a text where neither a comment nor a triple-quoted string of any language can open they find the
same tokens, and only words may be of different kinds. -/
namespace SourceLens

open Text Pattern

variable {language other : Language} {s x rest : List Char} {c : Char} {kind : TokenKind}
  {t : Token}

/-- What opens the comments and the triple-quoted strings of the languages. -/
def openers : List String := ["//", "/*", "#", "\"\"\"", "'''"]

/-- No comment and no triple-quoted string of any language opens in the text. -/
def Plain (s : List Char) : Prop := ∀ mark ∈ openers, ¬mark.toList <:+: s

instance (s : List Char) : Decidable (Plain s) := inferInstanceAs (Decidable (∀ _ ∈ _, _))

/-- A keyword or an identifier. -/
def Token.IsWord (t : Token) : Prop := t.kind = .keyword ∨ t.kind = .identifier

/-- Tokens of two languages that are the same but for the words that the languages reserve. -/
structure Token.Counterpart (language other : Language) (t u : Token) : Prop where
  text : u.text = t.text
  kind : u.kind = t.kind ∨ t.IsWord ∧ u.IsWord
  left : t.IsWord → (t.kind = .keyword ↔ t.text ∈ language.keywords)
  right : u.IsWord → (u.kind = .keyword ↔ u.text ∈ other.keywords)

/-! ## Rules on plain text -/

namespace Plain

theorem of_append (h : Plain (x ++ s)) : Plain s :=
  fun mark hm hi => h mark hm (hi.trans (List.suffix_append x s).isInfix)

theorem splitComment?_eq_none (h : Plain s) : splitComment? language s = none := by
  rw [splitComment?_eq_none_iff]
  constructor
  · intro hp
    cases language with
    | cLike => exact h "//" (by decide) hp.isInfix
    | python => exact h "#" (by decide) hp.isInfix
  · rintro - inner rfl
    exact absurd (List.prefix_append ['/', '*'] inner).isInfix (h "/*" (by decide))

theorem splitTriple?_eq_none (h : Plain s) : splitTriple? language s = none := by
  rw [splitTriple?_eq_none_iff]
  rintro - q (rfl | rfl) inner rfl
  · exact absurd (List.prefix_append ['"', '"', '"'] inner).isInfix (h "\"\"\"" (by decide))
  · exact absurd (List.prefix_append ['\'', '\'', '\''] inner).isInfix (h "'''" (by decide))

/-- The other rules know of no language. -/
theorem lexeme?_other (h : Plain s) (language other : Language) :
    lexeme? other s = lexeme? language s := by
  rw [lexeme?_eq, lexeme?_eq, h.splitComment?_eq_none,
    h.splitComment?_eq_none, h.splitTriple?_eq_none, h.splitTriple?_eq_none]

end Plain

/-! ## Tokens on plain text -/

theorem classify_eq_keyword_iff {text : String} (hk : kind ≠ .keyword) :
    classify language kind text = .keyword ↔ kind = .identifier ∧ text ∈ language.keywords := by
  rw [classify_eq_ite]
  split <;> simp_all

theorem isWord_classify_iff {text : String} (hk : kind ≠ .keyword) :
    Token.IsWord ⟨classify language kind text, text⟩ ↔ kind = .identifier := by
  rw [Token.IsWord, classify_eq_ite]
  split <;> simp_all

theorem counterpart_classify (hk : kind ≠ .keyword) (text : String) :
    Token.Counterpart language other ⟨classify language kind text, text⟩
      ⟨classify other kind text, text⟩ where
  text := rfl
  kind := by
    by_cases hi : kind = .identifier
    · exact .inr ⟨(isWord_classify_iff hk).2 hi, (isWord_classify_iff hk).2 hi⟩
    · simp [classify, hi]
  left hw := by
    rw [classify_eq_keyword_iff hk]
    exact and_iff_right ((isWord_classify_iff hk).1 hw)
  right hw := by
    rw [classify_eq_keyword_iff hk]
    exact and_iff_right ((isWord_classify_iff hk).1 hw)

theorem counterpart_unknown (text : String) :
    Token.Counterpart language other ⟨.unknown, text⟩ ⟨.unknown, text⟩ where
  text := rfl
  kind := .inl rfl
  left := nofun
  right := nofun

namespace Plain

/-- The first tokens of a plain text correspond and leave the same text behind. -/
theorem exists_counterpart (h : Plain s) (ht : nextToken? language s = some (t, rest)) :
    ∃ u, nextToken? other s = some (u, rest) ∧ t.Counterpart language other u := by
  cases s with
  | nil => cases ht
  | cons c s =>
    cases hl : lexeme? language (c :: s) with
    | none =>
      rw [nextToken?_of_lexeme?_eq_none hl] at ht
      cases ht
      rw [← h.lexeme?_other language other] at hl
      exact ⟨_, nextToken?_of_lexeme?_eq_none hl, counterpart_unknown _⟩
    | some split =>
      obtain ⟨kind, x, r⟩ := split
      obtain ⟨rule, hfirst, rfl⟩ := lexeme?_eq_some_iff.1 hl
      rw [nextToken?_of_lexeme? hl] at ht
      cases ht
      rw [← h.lexeme?_other language other] at hl
      exact ⟨_, nextToken?_of_lexeme? hl, counterpart_classify hfirst.kind_ne.2 _⟩

theorem forall₂_tokensOf (h : Plain s) :
    List.Forall₂ (Token.Counterpart language other) (tokensOf language s) (tokensOf other s) := by
  fun_induction tokensOf language s with
  | case1 s hs =>
    obtain rfl := nextToken?_eq_none_iff.1 hs
    rw [tokensOf_nil]
    exact .nil
  | case2 s t rest ht _ ih =>
    obtain ⟨u, hu, htu⟩ := h.exists_counterpart ht
    obtain ⟨hs, -⟩ := append_of_nextToken? ht
    rw [← hs] at h
    rw [tokensOf_of_nextToken? hu]
    exact .cons htu (ih h.of_append)

end Plain

/-- In a plain text the languages find as many tokens, with the same texts in the same order, and of
the same kinds but for words, which each language takes for keywords if it reserves them. -/
theorem tokenize_counterparts {source : String} (h : Plain source.toList) :
    List.Forall₂ (Token.Counterpart .cLike .python) (tokenize source .cLike)
      (tokenize source .python) :=
  h.forall₂_tokensOf

theorem tokenize_counterparts_open_quote :
    let source := "def int(n) = 'a' / * 2x \"\\\""
    Plain source.toList ∧
      List.Forall₂ (Token.Counterpart .cLike .python) (tokenize source .cLike)
        (tokenize source .python) := by
  intro source
  have h : Plain source.toList := by decide +kernel
  exact ⟨h, tokenize_counterparts h⟩

end SourceLens
