import SourceLens.Proofs.Lexeme.Pattern
import SourceLens.Proofs.Text.ByteOrder

/-! # Text between quotes

What may stand between a quote and the quote that closes it, said without a search. The search for
the closing quote finds just this, and the length of a match is that of the quoted text. -/
namespace SourceLens.Pattern

open Text

variable {s x rest : List Char} {quote : Char}

/-- Characters other than the quote and the backslash, and backslashes each of which takes the
character behind it along. -/
inductive QuotedBody (quote : Char) : List Char → Prop
  | nil : QuotedBody quote []
  | char {c : Char} {s : List Char} (hq : c ≠ quote) (hb : c ≠ '\\') (tail : QuotedBody quote s) :
      QuotedBody quote (c :: s)
  | escape (e : Char) {s : List Char} (tail : QuotedBody quote s) :
      QuotedBody quote ('\\' :: e :: s)

/-- The quote behind a body closes it. -/
theorem QuotedBody.closeQuote?_append (h : QuotedBody quote x) (hq : quote ≠ '\\')
    (rest : List Char) : closeQuote? quote (x ++ quote :: rest) = some (x ++ [quote], rest) := by
  induction h with
  | nil => exact closeQuote?_quote hq rest
  | char hc hb _ ih =>
    rw [List.cons_append, closeQuote?_of_ne hb hc, ih, Option.map_some, List.cons_append]
  | escape e _ ih =>
    rw [List.cons_append, List.cons_append, closeQuote?_escape, ih, Option.map_some,
      List.cons_append, List.cons_append]

theorem exists_quotedBody_of_closeQuote? (h : closeQuote? quote s = some (x, rest)) :
    ∃ body, QuotedBody quote body ∧ s = body ++ quote :: rest ∧ x = body ++ [quote] := by
  fun_induction closeQuote? quote s generalizing x with
  | case1 => cases h
  | case2 => cases h
  | case3 e s ih =>
    obtain ⟨⟨y, r⟩, hy, h⟩ := Option.map_eq_some_iff.1 h
    cases h
    obtain ⟨body, hbody, rfl, rfl⟩ := ih hy
    exact ⟨'\\' :: e :: body, .escape e hbody, rfl, rfl⟩
  | case4 s _ =>
    cases h
    exact ⟨[], .nil, rfl, rfl⟩
  | case5 c s hb hq ih =>
    obtain ⟨⟨y, r⟩, hy, h⟩ := Option.map_eq_some_iff.1 h
    cases h
    obtain ⟨body, hbody, rfl, rfl⟩ := ih hy
    exact ⟨c :: body, .char hq hb hbody, rfl, rfl⟩

/-- A quote stays open if no quote behind it comes after a body. -/
theorem closeQuote?_eq_none_iff (hq : quote ≠ '\\') :
    closeQuote? quote s = none ↔
      ∀ body rest, QuotedBody quote body → s ≠ body ++ quote :: rest := by
  constructor
  · rintro h body rest hbody rfl
    rw [hbody.closeQuote?_append hq] at h
    cases h
  · intro h
    rw [Option.eq_none_iff_forall_ne_some]
    rintro ⟨x, rest⟩ hx
    obtain ⟨body, hbody, hs, -⟩ := exists_quotedBody_of_closeQuote? hx
    exact h body rest hbody hs

/-! ## Quoted text -/

/-- A quote, a body, and the quote again. -/
def IsQuoted (text : String) : Prop :=
  ∃ quote body, (quote = '"' ∨ quote = '\'') ∧ QuotedBody quote body ∧
    text.toList = quote :: (body ++ [quote])

theorem splitQuoted?_eq_some_iff_isQuoted :
    splitQuoted? s = some (x, rest) ↔ x ++ rest = s ∧ IsQuoted (String.ofList x) := by
  simp only [splitQuoted?_eq_some_iff, IsQuoted, String.toList_ofList]
  constructor
  · rintro ⟨quote, inner, y, rfl, hquote, hclose, rfl⟩
    obtain ⟨body, hbody, rfl, rfl⟩ := exists_quotedBody_of_closeQuote? hclose
    exact ⟨by simp, quote, body, hquote, hbody, rfl⟩
  · rintro ⟨rfl, quote, body, hquote, hbody, rfl⟩
    have hclose := hbody.closeQuote?_append (ne_backslash_of_quote hquote) rest
    exact ⟨quote, body ++ quote :: rest, body ++ [quote], by simp, hquote, hclose, rfl⟩

/-- The first `n` bytes of a text are those of a quoted text. -/
def StartsQuoted (source : String) (n : Nat) : Prop :=
  ∃ text, IsQuoted text ∧ utf8 text <+: utf8 source ∧ (utf8 text).length = n

theorem matchLength?_quotedString_eq_some_iff {source : String} {n : Nat} :
    quotedString.matchLength? source = some n ↔ StartsQuoted source n := by
  simp only [matchLength?_eq_some_iff, split?, splitQuoted?_eq_some_iff_isQuoted, StartsQuoted,
    utf8_prefix_iff, length_utf8]
  constructor
  · rintro ⟨x, rest, ⟨hs, hx⟩, hn⟩
    refine ⟨String.ofList x, hx, ⟨rest, ?_⟩, ?_⟩
    · rw [String.toList_ofList, hs]
    · rw [String.toList_ofList, hn]
  · rintro ⟨text, htext, ⟨rest, hs⟩, hn⟩
    exact ⟨text.toList, rest, ⟨hs, by rwa [String.ofList_toList]⟩, hn⟩

/-- A quoted string matches with just the length in bytes of a quoted text at the start of the
source, and there is one such length at most: the quote that closes the text is the first one that
no backslash takes along. -/
theorem matchLength?_quotedString (source : String) :
    (∀ n, quotedString.matchLength? source = some n ↔ StartsQuoted source n) ∧
      ∀ n m, StartsQuoted source n → StartsQuoted source m → n = m := by
  refine ⟨fun n => matchLength?_quotedString_eq_some_iff, ?_⟩
  intro n m hn hm
  rw [← matchLength?_quotedString_eq_some_iff] at hn hm
  exact Option.some.inj (hn.symm.trans hm)

theorem matchLength?_quotedString_escaped :
    let source := "'é\\'\"\n' 'x'"
    StartsQuoted source 8 ∧ quotedString.matchLength? source = some 8 ∧
      ∀ m, StartsQuoted source m → 8 = m := by
  intro source
  have hbody : QuotedBody '\'' ['é', '\\', '\'', '"', '\n'] :=
    .char (by decide) (by decide) (.escape '\'' (.char (by decide) (by decide)
      (.char (by decide) (by decide) .nil)))
  have hstart : StartsQuoted source 8 :=
    ⟨"'é\\'\"\n'", ⟨'\'', _, .inr rfl, hbody, rfl⟩, by decide, by decide⟩
  obtain ⟨hlength, hunique⟩ := matchLength?_quotedString source
  exact ⟨hstart, (hlength 8).2 hstart, fun m => hunique 8 m hstart⟩

end SourceLens.Pattern
