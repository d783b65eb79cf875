import SourceLens.Proofs.TokenStream.Stream
import Mathlib.Tactic.MkIffOfInductiveProp

/-! # Printing tokens

Tokens that are tokens by themselves come back from the text that they spell if no two of them
grow together. What grows together is listed once, as the places where two tokens may meet. -/
namespace SourceLens

open Text Pattern

variable {language : Language} {t : Token} {ts : List Token}

/-- Whether a token begins with a character of the class. -/
def Token.beginsWith (t : Token) (p : Char → Bool) : Bool := t.first?.any p

/-- A token does not grow together with the tokens behind it. -/
@[mk_iff]
structure Token.Separated (language : Language) (t : Token) (ts : List Token) : Prop where
  blanks : t.kind = .whitespace → ∀ u ∈ ts.head?, u.kind ≠ .whitespace
  word : t.kind = .keyword ∨ t.kind = .identifier ∨ t.kind = .number →
    ∀ u ∈ ts.head?, ¬u.beginsWith isWordChar
  operator : t.kind = .operator → t.text.length = 1 →
    ∀ u ∈ ts.head?, ¬u.beginsWith fun c => t.text.push c ∈ doubleOperators
  fraction : t.kind = .number → '.' ∉ t.text.toList →
    ts.head? = some ⟨.operator, "."⟩ → ∀ u ∈ ts.tail.head?, u.kind ≠ .number
  line : t.kind = .comment → language.lineMark <+: t.text.toList →
    ∀ u ∈ ts.head?, u.kind = .whitespace ∧ u.first? = some '\n'
  slash : language = .cLike → t = ⟨.operator, "/"⟩ →
    ∀ u ∈ ts.head?, u.first? ≠ some '/' ∧ u.first? ≠ some '*'
  quotes : language = .python → t = ⟨.string, "\"\""⟩ → ∀ u ∈ ts.head?, u.first? ≠ some '"'
  apostrophes : language = .python → t = ⟨.string, "''"⟩ → ∀ u ∈ ts.head?, u.first? ≠ some '\''

set_option synthInstance.maxSize 512 in
instance (language : Language) (t : Token) (ts : List Token) :
    Decidable (t.Separated language ts) :=
  decidable_of_iff' _ (t.separated_iff language ts)

/-- No token grows together with those behind it. -/
def Separable (language : Language) : List Token → Prop
  | [] => True
  | t :: ts => t.Separated language ts ∧ Separable language ts

instance decidableSeparable (language : Language) : DecidablePred (Separable language)
  | [] => inferInstanceAs (Decidable True)
  | _ :: ts =>
    have := decidableSeparable language ts
    inferInstanceAs (Decidable (_ ∧ _))

/-- A token that the rules find in its own text. -/
def Token.Alone (language : Language) (t : Token) : Prop :=
  t.kind ≠ .unknown ∧ tokenize t.text language = [t]

namespace Token.Alone

theorem stands (h : t.Alone language) : t.Stands language [] := by
  have hs : IsStream language [t] := by
    rw [← tokenize_spell_iff, spell_singleton]
    exact h.2
  exact hs.1

theorem nextToken? (h : t.Alone language) :
    nextToken? language t.text.toList = some (t, []) :=
  nextToken?_eq_some_iff.2 ⟨List.append_nil _, h.stands⟩

theorem kind_of_isDigit {c : Char} (h : t.Alone language) (hc : t.first? = some c)
    (hd : c.isDigit = true) : t.kind = .number := by
  obtain ⟨s, hs⟩ := exists_cons_of_first? hc
  have ht := h.nextToken?
  rw [hs] at ht
  rcases SourceLens.kind_of_isDigit hd ht with hk | hk
  · exact hk
  · exact absurd hk h.1

theorem eq_point (h : t.Alone language) (hc : t.first? = some '.') : t = ⟨.operator, "."⟩ := by
  obtain ⟨s, hs⟩ := exists_cons_of_first? hc
  have ht := h.nextToken?
  rw [hs, nextToken?_point] at ht
  exact (Prod.mk.inj (Option.some.inj ht)).1.symm

end Token.Alone

/-- What the tokens spell begins where the first of them does. -/
theorem exists_first?_of_head?_spell {c : Char} (h : ∀ t ∈ ts, t.Alone language)
    (hc : (spell ts).toList.head? = some c) : ∃ u ∈ ts.head?, u.first? = some c :=
  (head?_spell_eq_some_iff fun t ht => (h t ht).stands.text_ne_nil).1 hc

private theorem eq_mk {kind : TokenKind} {text : String} (hk : t.kind = kind)
    (hx : t.text.toList = text.toList) : t = ⟨kind, text⟩ := by
  cases t
  rw [Token.mk.injEq]
  exact ⟨hk, String.toList_inj.1 hx⟩

/-! ## Where two tokens meet -/

namespace Token.Separated

theorem blanks_end (h : t.Separated language ts) (hts : ∀ u ∈ ts, u.Alone language)
    (hk : t.kind = .whitespace) : ∀ c ∈ (spell ts).toList.head?, isSourceBlank c = false := by
  intro c hc
  obtain ⟨u, hu, hc⟩ := exists_first?_of_head?_spell hts hc
  rw [← Bool.not_eq_true]
  intro hb
  have hw := (hts u (List.mem_of_mem_head? hu)).stands.kind_of_isSourceBlank hc hb
  exact h.blanks hk u hu hw

theorem line_ends (h : t.Separated language ts) (hts : ∀ u ∈ ts, u.Alone language)
    (hk : t.kind = .comment) (hx : language.lineMark <+: t.text.toList) :
    ∀ c ∈ (spell ts).toList.head?, c = '\n' := by
  intro c hc
  obtain ⟨u, hu, hc⟩ := exists_first?_of_head?_spell hts hc
  have hfeed := (h.line hk hx u hu).2
  rw [hc] at hfeed
  exact Option.some.inj hfeed

theorem word_ends (h : t.Separated language ts) (hts : ∀ u ∈ ts, u.Alone language)
    (hk : t.kind = .keyword ∨ t.kind = .identifier ∨ t.kind = .number) :
    atWordBoundary (spell ts).toList = true := by
  rw [atWordBoundary_iff]
  intro c hc
  obtain ⟨u, hu, hc⟩ := exists_first?_of_head?_spell hts hc
  have hw := h.word hk u hu
  rwa [beginsWith, hc, Option.any_some, Bool.not_eq_true] at hw

/-- Digits take no fraction from the tokens behind them. -/
theorem splitFraction?_eq_none (h : t.Separated language ts) (hts : ∀ u ∈ ts, u.Alone language)
    (hk : t.kind = .number) (hx : Digits t.text.toList) :
    splitFraction? (spell ts).toList = none := by
  rw [splitFraction?_eq_none_iff]
  intro x hr
  obtain ⟨u, hu, hc⟩ := exists_first?_of_head?_spell hts (by rw [hr]; rfl)
  obtain rfl := (hts u (List.mem_of_mem_head? hu)).eq_point hc
  obtain ⟨us, rfl⟩ := List.head?_eq_some_iff.1 hu
  have hus : ∀ v ∈ us, v.Alone language := fun v hv => hts v (List.mem_cons_of_mem _ hv)
  have hpoint : '.' ∉ t.text.toList := fun hmem => absurd (hx.2 '.' hmem) (by decide)
  rw [spell_cons, String.toList_append] at hr
  obtain rfl : (spell us).toList = x := (List.cons.inj hr).2
  rw [splitNumber?_eq_none_iff]
  left
  intro c hc
  obtain ⟨v, hv, hc⟩ := exists_first?_of_head?_spell hus hc
  rw [← Bool.not_eq_true]
  intro hd
  have hnumber := (hus v (List.mem_of_mem_head? hv)).kind_of_isDigit hc hd
  exact h.fraction hk hpoint rfl v hv hnumber

/-- A string opens no triple-quoted one with the tokens behind it: it would have to be empty. -/
theorem splitTriple?_eq_none (h : t.Separated language ts) (hts : ∀ u ∈ ts, u.Alone language)
    (hk : t.kind = .string) (hx : splitQuoted? t.text.toList = some (t.text.toList, [])) :
    splitTriple? language (t.text.toList ++ (spell ts).toList) = none := by
  rw [splitTriple?_eq_none_iff]
  intro hl q hq inner hs
  have hx : t.text.toList = [q, q] := eq_of_splitQuoted?_of_append_eq hx hs
  rw [hx] at hs
  have hr : (spell ts).toList = q :: inner := (List.cons.inj (List.cons.inj hs).2).2
  obtain ⟨u, hu, hc⟩ := exists_first?_of_head?_spell hts (by rw [hr]; rfl)
  rcases hq with rfl | rfl
  · exact absurd hc (h.quotes hl (eq_mk hk hx) u hu)
  · exact absurd hc (h.apostrophes hl (eq_mk hk hx) u hu)

theorem single_ends (h : t.Separated language ts) (hts : ∀ u ∈ ts, u.Alone language)
    (hk : t.kind = .operator) (hx : Form.single.Fits language t.text.toList) :
    Form.single.Ends language t.text.toList (spell ts).toList := by
  obtain ⟨a, ha, hx⟩ := hx
  have hlength : t.text.length = 1 := by rw [← String.length_toList, hx, List.length_singleton]
  constructor
  · intro b hb
    obtain ⟨u, hu, hc⟩ := exists_first?_of_head?_spell hts hb
    have hdouble := h.operator hk hlength u hu
    rw [beginsWith, hc, Option.any_some, decide_eq_true_eq] at hdouble
    rwa [← String.toList_push, String.ofList_toList]
  · rw [hx]
    apply splitComment?_operator_eq_none ha
    rintro hl rfl b hb
    obtain ⟨u, hu, hc⟩ := exists_first?_of_head?_spell hts hb
    have hslash := h.slash hl (eq_mk hk hx) u hu
    rw [hc] at hslash
    exact ⟨fun h => hslash.1 (congrArg some h), fun h => hslash.2 (congrArg some h)⟩

/-- Where two tokens do not grow together, the first of them ends. -/
theorem stands (h : t.Separated language ts) (ht : t.Alone language)
    (hts : ∀ u ∈ ts, u.Alone language) : t.Stands language (spell ts).toList := by
  obtain ⟨form, hk, hf, -⟩ := ht.stands
  refine ⟨form, hk, hf, ?_⟩
  cases form with
  | blanks => exact h.blanks_end hts hk
  | line => exact h.line_ends hts hk hf.1
  | block => trivial
  | triple => trivial
  | quoted => exact h.splitTriple?_eq_none hts hk hf
  | integer => exact ⟨h.word_ends hts (.inr (.inr hk)), h.splitFraction?_eq_none hts hk hf⟩
  | decimal => exact h.word_ends hts (.inr (.inr hk))
  | double => trivial
  | single => exact h.single_ends hts hk hf
  | word =>
    apply h.word_ends hts
    rw [hk, Form.kind]
    split
    · exact .inl rfl
    · exact .inr (.inl rfl)
  | lone => exact absurd hk ht.1

end Token.Separated

theorem isStream_of_separable (h : ∀ t ∈ ts, t.Alone language) (hs : Separable language ts) :
    IsStream language ts := by
  induction ts with
  | nil => trivial
  | cons t ts ih =>
    have hts : ∀ u ∈ ts, u.Alone language := fun u hu => h u (List.mem_cons_of_mem t hu)
    exact ⟨hs.1.stands (h t List.mem_cons_self) hts, ih hts hs.2⟩

/-- The text that separable tokens spell has just these tokens. -/
theorem tokenize_spell (h : ∀ t ∈ ts, t.kind ≠ .unknown ∧ tokenize t.text language = [t])
    (hs : Separable language ts) : tokenize (spell ts) language = ts :=
  tokenize_spell_iff.2 (isStream_of_separable h hs)

theorem tokenize_spell_comment_and_strings :
    let ts : List Token := [⟨.keyword, "return"⟩, ⟨.string, "\"\""⟩, ⟨.string, "'a'"⟩,
      ⟨.operator, "."⟩, ⟨.number, "1"⟩, ⟨.operator, ","⟩, ⟨.comment, "# b"⟩,
      ⟨.whitespace, "\n "⟩, ⟨.number, "2.5"⟩, ⟨.operator, "/"⟩, ⟨.operator, "/"⟩]
    (∀ t ∈ ts, t.kind ≠ .unknown ∧ tokenize t.text .python = [t]) ∧ Separable .python ts ∧
      tokenize (spell ts) .python = ts := by
  intro ts
  have h : ∀ t ∈ ts, t.kind ≠ .unknown ∧ tokenize t.text .python = [t] := by decide +kernel
  have hs : Separable .python ts := by decide +kernel
  exact ⟨h, hs, tokenize_spell h hs⟩

end SourceLens
