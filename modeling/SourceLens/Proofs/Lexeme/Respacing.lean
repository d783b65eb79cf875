import SourceLens.Proofs.Lexeme.Form

/-! # Texts that differ in their white space

White space may be exchanged for other white space, but none may come or go. The rules look behind
a token for visible characters only and pass over white space of any kind, so that a search which
fails in one text fails in the other. -/
namespace SourceLens

open Text Pattern

variable {language : Language} {s s' t x rest rest' w w' : List Char} {c quote : Char}

/-- White space of at least one character. -/
def Blanks (w : List Char) : Prop := w ≠ [] ∧ ∀ c ∈ w, isSourceBlank c = true

/-- The second text is the first one with other white space in some of its gaps. -/
inductive Respaced : List Char → List Char → Prop
  | nil : Respaced [] []
  | char (c : Char) {s s' : List Char} (tail : Respaced s s') : Respaced (c :: s) (c :: s')
  | gap {w w' s s' : List Char} (left : Blanks w) (right : Blanks w') (tail : Respaced s s') :
      Respaced (w ++ s) (w' ++ s')

theorem not_isWordChar_of_isSourceBlank (hc : isSourceBlank c = true) : isWordChar c = false := by
  rw [← Bool.not_eq_true]
  intro hw
  rw [(isVisible_of_isWordChar hw).not_blank] at hc
  cases hc

theorem not_isDigit_of_isSourceBlank (hc : isSourceBlank c = true) : c.isDigit = false :=
  isDigit_eq_false_of_isWordChar (not_isWordChar_of_isSourceBlank hc)

namespace Respaced

theorem symm (h : Respaced s s') : Respaced s' s := by
  induction h with
  | nil => exact .nil
  | char c _ ih => exact .char c ih
  | gap left right _ ih => exact .gap right left ih

theorem append (x : List Char) (h : Respaced s s') : Respaced (x ++ s) (x ++ s') := by
  induction x with
  | nil => exact h
  | cons c x ih => exact .char c ih

theorem eq_nil (h : Respaced [] s') : s' = [] := by
  generalize hs : ([] : List Char) = s at h
  cases h with
  | nil => rfl
  | char c tail => cases hs
  | gap left right tail => exact absurd (List.append_eq_nil_iff.1 hs.symm).1 left.1

/-- A visible character stays where it is. -/
theorem exists_eq_cons (h : Respaced (c :: s) s') (hc : isSourceBlank c = false) :
    ∃ t, s' = c :: t ∧ Respaced s t := by
  generalize hs : c :: s = u at h
  cases h with
  | nil => cases hs
  | char d tail =>
    obtain ⟨rfl, rfl⟩ := List.cons.inj hs
    exact ⟨_, rfl, tail⟩
  | @gap w w' u u' left right tail =>
    obtain ⟨d, w, rfl⟩ := List.exists_cons_of_ne_nil left.1
    obtain ⟨rfl, -⟩ := List.cons.inj hs
    rw [left.2 c List.mem_cons_self] at hc
    cases hc

theorem head?_eq (h : Respaced s s') (hs : ∀ c ∈ s.head?, isSourceBlank c = false) :
    s'.head? = s.head? := by
  cases s with
  | nil => rw [h.eq_nil]
  | cons c s =>
    obtain ⟨t, rfl, -⟩ := h.exists_eq_cons (hs c rfl)
    rfl

/-- What holds of white space and of a first character holds of the other first character. -/
theorem forall_head? {p : Char → Prop} (h : Respaced s s')
    (hp : ∀ c, isSourceBlank c = true → p c) (hs : ∀ c ∈ s.head?, p c) : ∀ c ∈ s'.head?, p c := by
  intro c hc
  by_cases hb : isSourceBlank c = true
  · exact hp c hb
  · obtain ⟨u, rfl⟩ := List.head?_eq_some_iff.1 hc
    obtain ⟨t, rfl, -⟩ := h.symm.exists_eq_cons (Bool.eq_false_iff.2 hb)
    exact hs c rfl

theorem prefix_right {p : List Char} (h : Respaced s s') (hp : p.any isSourceBlank = false)
    (hs : p <+: s) : p <+: s' := by
  induction p generalizing s s' with
  | nil => exact List.nil_prefix
  | cons c p ih =>
    rw [List.any_cons, Bool.or_eq_false_iff] at hp
    obtain ⟨r, rfl⟩ := hs
    obtain ⟨t, rfl, ht⟩ := h.exists_eq_cons hp.1
    rw [List.prefix_cons_inj]
    exact ih ht hp.2 (List.prefix_append p r)

/-- A visible text does not begin in white space. -/
theorem infix_of_infix_append {p : List Char} (hw : ∀ c ∈ w, isSourceBlank c = true) (hn : p ≠ [])
    (hp : p.any isSourceBlank = false) (h : p <:+: w ++ s) : p <:+: s := by
  induction w with
  | nil => exact h
  | cons b w ih =>
    rcases List.infix_cons_iff.1 h with hpre | hin
    · obtain ⟨c, p, rfl⟩ := List.exists_cons_of_ne_nil hn
      obtain ⟨r, hr⟩ := hpre
      obtain ⟨rfl, -⟩ := List.cons.inj hr
      rw [List.any_cons, hw c List.mem_cons_self] at hp
      cases hp
    · exact ih (fun d hd => hw d (List.mem_cons_of_mem b hd)) hin

theorem infix_right {p : List Char} (h : Respaced s s') (hn : p ≠ [])
    (hp : p.any isSourceBlank = false) (hs : p <:+: s) : p <:+: s' := by
  induction h with
  | nil => exact hs
  | char c tail ih =>
    rcases List.infix_cons_iff.1 hs with hpre | hin
    · exact ((tail.char c).prefix_right hp hpre).isInfix
    · exact List.infix_cons (ih hin)
  | gap left right tail ih =>
    have hin := ih (infix_of_infix_append left.2 hn hp hs)
    exact hin.trans (List.suffix_append _ _).isInfix

theorem dropWhile {p : Char → Bool} (h : Respaced s s')
    (hp : ∀ c, isSourceBlank c = true → p c = false) :
    Respaced (s.dropWhile p) (s'.dropWhile p) := by
  induction h with
  | nil => exact .nil
  | char c tail ih =>
    by_cases hc : p c = true
    · rwa [List.dropWhile_cons_of_pos hc, List.dropWhile_cons_of_pos hc]
    · rw [List.dropWhile_cons_of_neg hc, List.dropWhile_cons_of_neg hc]
      exact .char c tail
  | gap left right tail ih =>
    have hgap : ∀ {w : List Char} (s : List Char), Blanks w → (w ++ s).dropWhile p = w ++ s := by
      rintro (_ | ⟨b, w⟩) s ⟨hne, hw⟩
      · exact absurd rfl hne
      · have hb := hp b (hw b List.mem_cons_self)
        rw [List.cons_append, List.dropWhile_cons_of_neg (Bool.eq_false_iff.1 hb)]
    rw [hgap _ left, hgap _ right]
    exact .gap left right tail

/-! ## Failed searches -/

theorem atWordBoundary (h : Respaced s s') (hs : atWordBoundary s = true) :
    atWordBoundary s' = true := by
  rw [atWordBoundary_iff] at hs ⊢
  exact h.forall_head? (fun c => not_isWordChar_of_isSourceBlank) hs

theorem runsIntoWord (h : Respaced s s') (hs : RunsIntoWord s) : RunsIntoWord s' := by
  have hd := h.dropWhile fun c => not_isDigit_of_isSourceBlank
  rw [RunsIntoWord, ← Bool.not_eq_true] at hs ⊢
  exact fun hs' => hs (hd.symm.atWordBoundary hs')

theorem splitNumber?_eq_none (h : Respaced s s') (hs : splitNumber? s = none) :
    splitNumber? s' = none := by
  rw [splitNumber?_eq_none_iff] at hs ⊢
  rcases hs with hs | hs
  · exact .inl (h.forall_head? (fun c => not_isDigit_of_isSourceBlank) hs)
  · exact .inr (h.runsIntoWord hs)

theorem splitFraction?_eq_none (h : Respaced s s') (hs : splitFraction? s = none) :
    splitFraction? s' = none := by
  rw [splitFraction?_eq_none_iff] at hs ⊢
  rintro t rfl
  obtain ⟨u, rfl, hu⟩ := h.symm.exists_eq_cons (by decide)
  exact hu.symm.splitNumber?_eq_none (hs u rfl)

theorem splitComment?_eq_none (h : Respaced s s') (hs : splitComment? language s = none) :
    splitComment? language s' = none := by
  rw [splitComment?_eq_none_iff] at hs ⊢
  obtain ⟨hline, hblock⟩ := hs
  have hmark : language.lineMark.any isSourceBlank = false := by
    cases language <;> decide
  refine ⟨fun hp => hline (h.symm.prefix_right hmark hp), ?_⟩
  rintro hl inner rfl hi
  obtain ⟨u, rfl, hu⟩ := h.symm.exists_eq_cons (by decide)
  obtain ⟨v, rfl, hv⟩ := hu.exists_eq_cons (by decide)
  exact hblock hl v rfl (hv.infix_right (by decide) (by decide) hi)

theorem splitTriple?_eq_none (h : Respaced s s') (hs : splitTriple? language s = none) :
    splitTriple? language s' = none := by
  rw [splitTriple?_eq_none_iff] at hs ⊢
  rintro hl q hq inner rfl hi
  have hb := (isVisible_of_quote hq).not_blank
  obtain ⟨u, rfl, hu⟩ := h.symm.exists_eq_cons hb
  obtain ⟨v, rfl, hv⟩ := hu.exists_eq_cons hb
  obtain ⟨r, rfl, hr⟩ := hv.exists_eq_cons hb
  have hp : [q, q, q].any isSourceBlank = false := by simp [hb]
  exact hs hl q hq r rfl (hr.infix_right (List.cons_ne_nil _ _) hp hi)

theorem closeQuote?_blanks (hq : isSourceBlank quote = false)
    (hw : ∀ c ∈ w, isSourceBlank c = true) (s : List Char) :
    closeQuote? quote (w ++ s) = none ↔ closeQuote? quote s = none := by
  induction w with
  | nil => rfl
  | cons b w ih =>
    have hb := hw b List.mem_cons_self
    have hescape : b ≠ '\\' := by
      rintro rfl
      exact absurd hb (by decide)
    have hne : b ≠ quote := by
      rintro rfl
      rw [hb] at hq
      cases hq
    rw [List.cons_append, closeQuote?_of_ne hescape hne, Option.map_eq_none_iff]
    exact ih fun c hc => hw c (List.mem_cons_of_mem b hc)

/-- A quote that nothing closes stays open; behind a backslash, too, which takes some of the white
space that follows it. -/
theorem closeQuote?_eq_none_iff (h : Respaced s s') (hq : isSourceBlank quote = false)
    (hne : quote ≠ '\\') :
    (closeQuote? quote s = none ↔ closeQuote? quote s' = none) ∧
      (closeQuote? quote ('\\' :: s) = none ↔ closeQuote? quote ('\\' :: s') = none) := by
  induction h with
  | nil => exact ⟨Iff.rfl, Iff.rfl⟩
  | char c tail ih =>
    constructor
    · by_cases hc : c = '\\'
      · rw [hc]
        exact ih.2
      · by_cases hcq : c = quote
        · rw [hcq, closeQuote?_quote hne, closeQuote?_quote hne]
          exact iff_of_false nofun nofun
        · rw [closeQuote?_of_ne hc hcq, closeQuote?_of_ne hc hcq, Option.map_eq_none_iff,
            Option.map_eq_none_iff]
          exact ih.1
    · rw [closeQuote?_escape, closeQuote?_escape, Option.map_eq_none_iff, Option.map_eq_none_iff]
      exact ih.1
  | gap left right tail ih =>
    have hgap : ∀ {w : List Char} (s : List Char), Blanks w →
        (closeQuote? quote ('\\' :: (w ++ s)) = none ↔ closeQuote? quote s = none) := by
      rintro (_ | ⟨b, w⟩) s ⟨hne, hw⟩
      · exact absurd rfl hne
      · rw [List.cons_append, closeQuote?_escape, Option.map_eq_none_iff]
        exact closeQuote?_blanks hq (fun c hc => hw c (List.mem_cons_of_mem b hc)) s
    constructor
    · rw [closeQuote?_blanks hq left.2, closeQuote?_blanks hq right.2]
      exact ih.1
    · rw [hgap _ left, hgap _ right]
      exact ih.1

theorem splitQuoted?_eq_none (h : Respaced s s') (hs : splitQuoted? s = none) :
    splitQuoted? s' = none := by
  rw [splitQuoted?_eq_none_iff] at hs ⊢
  rintro q t rfl hq
  have hb := (isVisible_of_quote hq).not_blank
  obtain ⟨u, rfl, hu⟩ := h.symm.exists_eq_cons hb
  exact (hu.closeQuote?_eq_none_iff hb (ne_backslash_of_quote hq)).1.2 (hs q u rfl hq)

end Respaced

/-- A token ends before other white space as well, unless it ends with its line. -/
theorem Form.Ends.respaced {form : Form} (he : form.Ends language x rest) (hl : form ≠ .line)
    (h : Respaced rest rest') : form.Ends language x rest' := by
  cases form with
  | blanks =>
    intro c hc
    rw [h.head?_eq he] at hc
    exact he c hc
  | line => exact absurd rfl hl
  | block => trivial
  | triple => trivial
  | quoted => exact (h.append x).splitTriple?_eq_none he
  | integer => exact ⟨h.atWordBoundary he.1, h.splitFraction?_eq_none he.2⟩
  | decimal => exact h.atWordBoundary he
  | double => trivial
  | single =>
    refine ⟨h.forall_head? ?_ he.1, (h.append x).splitComment?_eq_none he.2⟩
    intro b hb hm
    obtain ⟨a, -, d, hd, had⟩ := of_mem_doubleOperators hm
    have hbd : b = d := by simpa using congrArg List.getLast? had
    have hvisible : ['>', '+', '-', '&', '|', '='].any isSourceBlank = false := by decide
    exact List.any_eq_false.1 hvisible d hd (hbd ▸ hb)
  | word => exact h.atWordBoundary he
  | lone =>
    exact ⟨(h.append x).splitNumber?_eq_none he.1, (h.append x).splitQuoted?_eq_none he.2⟩

end SourceLens
