import SourceLens.Proofs.Lexeme.Stray
import SourceLens.Proofs.TokenStream.Stream

/-! # Slices of a stream

A stream can be cut off behind any token but one: digits that run into a word are unknown
characters, and would be a number if the word did not follow. -/
namespace SourceLens

open Text Pattern

variable {language : Language} {s x rest cut : List Char}

/-! ## What a shorter text does not match -/

theorem splitComment?_eq_none_of_append (h : splitComment? language (s ++ cut) = none) :
    splitComment? language s = none := by
  obtain ⟨hm, hb⟩ := splitComment?_eq_none_iff.1 h
  refine splitComment?_eq_none_iff.2 ⟨fun hp => hm (hp.trans (List.prefix_append s cut)), ?_⟩
  rintro hl inner rfl hi
  exact hb hl (inner ++ cut) rfl (hi.trans (List.prefix_append inner cut).isInfix)

theorem splitTriple?_eq_none_of_append (h : splitTriple? language (s ++ cut) = none) :
    splitTriple? language s = none := by
  rw [splitTriple?_eq_none_iff] at h ⊢
  rintro hl q hq inner rfl hi
  exact h hl q hq (inner ++ cut) rfl (hi.trans (List.prefix_append inner cut).isInfix)

theorem splitQuoted?_eq_none_of_append (h : splitQuoted? (s ++ cut) = none) :
    splitQuoted? s = none := by
  rw [Option.eq_none_iff_forall_ne_some]
  rintro ⟨x, r⟩ hx
  have hs := splitQuoted?_append hx (r ++ cut)
  rw [← List.append_assoc, append_of_splitQuoted? hx, h] at hs
  cases hs

theorem atWordBoundary_of_append (h : atWordBoundary (s ++ cut) = true) :
    atWordBoundary s = true := by
  cases s with
  | nil => rfl
  | cons c s => exact h

/-- Cut off, digits may run into nothing instead of a word; then the text is all digits. -/
theorem runsIntoWord_or_of_append (h : RunsIntoWord (s ++ cut)) :
    RunsIntoWord s ∨ ∀ c ∈ s, c.isDigit = true := by
  cases hd : s.dropWhile Char.isDigit with
  | nil => exact .inr (List.dropWhile_eq_nil_iff.1 hd)
  | cons c t =>
    left
    rw [RunsIntoWord, List.dropWhile_append, hd] at h
    rw [RunsIntoWord, hd]
    exact h

/-- A digit that no longer runs into a word when the text is cut off. -/
def LosesWord (s cut : List Char) : Prop := Digits s ∧ RunsIntoWord (s ++ cut)

theorem splitNumber?_eq_none_or_of_append (h : splitNumber? (s ++ cut) = none) :
    splitNumber? s = none ∨ LosesWord s cut := by
  rw [splitNumber?_eq_none_iff] at h ⊢
  cases s with
  | nil => exact .inl (.inl nofun)
  | cons c s =>
    rcases h with h | h
    · exact .inl (.inl h)
    · rcases runsIntoWord_or_of_append h with hr | hd
      · exact .inl (.inr hr)
      · exact .inr ⟨⟨List.cons_ne_nil c s, hd⟩, h⟩

theorem splitFraction?_eq_none_or_of_append (h : splitFraction? (s ++ cut) = none) :
    splitFraction? s = none ∨ ∃ t, s = '.' :: t ∧ LosesWord t cut := by
  rw [splitFraction?_eq_none_iff] at h
  by_cases hs : ∃ t, s = '.' :: t
  · obtain ⟨t, rfl⟩ := hs
    rcases splitNumber?_eq_none_or_of_append (h (t ++ cut) rfl) with hn | hl
    · left
      rw [splitFraction?_eq_none_iff]
      intro u hu
      rwa [← (List.cons.inj hu).2]
    · exact .inr ⟨t, rfl, hl⟩
  · exact .inl (splitFraction?_eq_none_iff.2 fun t ht => absurd ⟨t, ht⟩ hs)

/-- Cut off, a token still stands, unless digits lose the word that they ran into. -/
theorem Form.Ends.of_append {form : Form} (h : form.Ends language x (rest ++ cut)) :
    form.Ends language x rest ∨ LosesWord (x ++ rest) cut ∨
      ∃ t, rest = '.' :: t ∧ LosesWord t cut := by
  have hhead : ∀ {p : Char → Prop}, (∀ c ∈ (rest ++ cut).head?, p c) → ∀ c ∈ rest.head?, p c := by
    intro p hp
    cases rest with
    | nil => exact nofun
    | cons c rest => exact hp
  cases form with
  | blanks => exact .inl (hhead h)
  | line => exact .inl (hhead h)
  | block => exact .inl trivial
  | triple => exact .inl trivial
  | quoted =>
    left
    rw [Form.Ends, ← List.append_assoc] at h
    exact splitTriple?_eq_none_of_append h
  | integer =>
    rcases splitFraction?_eq_none_or_of_append h.2 with hf | hl
    · exact .inl ⟨atWordBoundary_of_append h.1, hf⟩
    · exact .inr (.inr hl)
  | decimal => exact .inl (atWordBoundary_of_append h)
  | double => exact .inl trivial
  | single =>
    left
    obtain ⟨hb, hc⟩ := h
    rw [← List.append_assoc] at hc
    exact ⟨hhead hb, splitComment?_eq_none_of_append hc⟩
  | word => exact .inl (atWordBoundary_of_append h)
  | lone =>
    obtain ⟨hn, hq⟩ := h
    rw [← List.append_assoc] at hn hq
    rcases splitNumber?_eq_none_or_of_append hn with hn | hl
    · exact .inl ⟨hn, splitQuoted?_eq_none_of_append hq⟩
    · exact .inr (.inl hl)

/-! ## Digits in front of a word -/

/-- The token of a digit that is not part of a number. -/
def IsLoneDigit (t : Token) : Prop := ∃ c : Char, c.isDigit = true ∧ t = ⟨.unknown, String.singleton c⟩

theorem nextToken?_of_runsIntoWord {c : Char} (hc : c.isDigit = true)
    (h : RunsIntoWord (c :: s)) :
    nextToken? language (c :: s) = some (⟨.unknown, String.singleton c⟩, s) :=
  (Stray.of_runsIntoWord hc h).nextToken?

variable {t : Token} {ts us : List Token}

/-- What the text starts with, seen up to the cut, is the first token. -/
theorem IsStream.eq_of_nextToken? {y : List Char} (h : IsStream language (t :: ts ++ us))
    (hs : (spell (t :: ts)).toList = s)
    (hn : nextToken? language (s ++ (spell us).toList) = some (u, y ++ (spell us).toList)) :
    t = u ∧ (spell ts).toList = y := by
  have ht : nextToken? language (spell (t :: (ts ++ us))).toList =
      some (t, (spell (ts ++ us)).toList) := h.nextToken?_spell
  rw [← List.cons_append, spell_append, spell_append, String.toList_append, String.toList_append,
    hs, hn] at ht
  obtain ⟨rfl, hr⟩ := Prod.mk.inj (Option.some.inj ht)
  exact ⟨rfl, (List.append_cancel_right hr).symm⟩

private theorem getLast?_cons_of_mem {d : Token} (hd : d ∈ ts.getLast?) :
    d ∈ (t :: ts).getLast? := by
  cases ts with
  | nil => cases hd
  | cons u ts => rwa [List.getLast?_cons_cons]

/-- Digits that lose their word are lone digits, down to the last. -/
theorem IsStream.getLast_of_losesWord (h : IsStream language (ts ++ us))
    (hl : LosesWord (spell ts).toList (spell us).toList) : ∃ d ∈ ts.getLast?, IsLoneDigit d := by
  induction ts with
  | nil => exact absurd rfl hl.1.1
  | cons t ts ih =>
    obtain ⟨⟨hne, hd⟩, hw⟩ := hl
    obtain ⟨c, x, hx⟩ := List.exists_cons_of_ne_nil hne
    rw [hx] at hd hw
    have hc : c.isDigit = true := hd c List.mem_cons_self
    obtain ⟨rfl, rfl⟩ := h.eq_of_nextToken? hx (nextToken?_of_runsIntoWord hc hw)
    cases ts with
    | nil => exact ⟨_, rfl, c, hc, rfl⟩
    | cons u ts =>
      have hnonempty : (spell (u :: ts)).toList ≠ [] := by
        rw [spell_cons, String.toList_append]
        exact List.append_ne_nil_of_left_ne_nil h.2.1.text_ne_nil _
      have hdigits : ∀ d ∈ (spell (u :: ts)).toList, d.isDigit = true := fun d h =>
        hd d (List.mem_cons_of_mem c h)
      have hfirst : ∀ d ∈ [c], d.isDigit = true := fun d h => List.mem_singleton.1 h ▸ hc
      exact ih h.2 ⟨⟨hnonempty, hdigits⟩, (runsIntoWord_append hfirst).1 hw⟩

/-- A point is a token of its own, and the digits behind it are lone if they lose their word. -/
theorem IsStream.getLast_of_point {x : List Char} (h : IsStream language (ts ++ us))
    (hx : (spell ts).toList = '.' :: x) (hl : LosesWord x (spell us).toList) :
    ∃ d ∈ ts.getLast?, IsLoneDigit d := by
  cases ts with
  | nil => cases hx
  | cons t ts =>
    obtain ⟨rfl, rfl⟩ := h.eq_of_nextToken? hx (nextToken?_point _)
    obtain ⟨d, hd, hlone⟩ := h.2.getLast_of_losesWord hl
    exact ⟨d, getLast?_cons_of_mem hd, hlone⟩

/-- A stream without its end is a stream, unless it ends in a lone digit. -/
theorem IsStream.truncate (h : IsStream language (ts ++ us))
    (hl : ∀ d ∈ ts.getLast?, ¬IsLoneDigit d) : IsStream language ts := by
  induction ts with
  | nil => trivial
  | cons t ts ih =>
    refine ⟨?_, ih h.2 fun d hd => hl d (getLast?_cons_of_mem hd)⟩
    have ht : t.Stands language (spell (ts ++ us)).toList := h.1
    obtain ⟨form, hk, hf, he⟩ := ht
    rw [spell_append, String.toList_append] at he
    rcases he.of_append with he | hw | ⟨x, hx, hw⟩
    · exact ⟨form, hk, hf, he⟩
    · rw [← String.toList_append, ← spell_cons] at hw
      obtain ⟨d, hd, hlone⟩ := h.getLast_of_losesWord hw
      exact absurd hlone (hl d hd)
    · obtain ⟨d, hd, hlone⟩ := h.2.getLast_of_point hx hw
      exact absurd hlone (hl d (getLast?_cons_of_mem hd))

/-! ## Tokens out of context -/

/-- The end of a token is a place where a text may start. -/
theorem tokenize_drop (source : String) (language : Language) (i : Nat) :
    tokenize (spell ((tokenize source language).drop i)) language =
      (tokenize source language).drop i := by
  have h := isStream_tokenize source language
  rw [← List.take_append_drop i (tokenize source language)] at h
  exact tokenize_spell_iff.2 h.of_append

/-- The tokens between two places are the tokens of the text between them, unless the last one
is a lone digit. -/
theorem tokenize_extract (source : String) (language : Language) {i j : Nat} (hij : i < j)
    (hj : j ≤ (tokenize source language).length)
    (hl : ∀ d ∈ (tokenize source language)[j - 1]?, ¬IsLoneDigit d) :
    tokenize (spell ((tokenize source language).extract i j)) language =
      (tokenize source language).extract i j := by
  generalize hts : tokenize source language = ts at *
  have h : IsStream language ts := hts ▸ isStream_tokenize source language
  have hdrop : IsStream language (ts.drop i) := by
    rw [← List.take_append_drop i ts] at h
    exact h.of_append
  have hlast : ((ts.drop i).take (j - i)).getLast? = ts[j - 1]? := by
    rw [List.getLast?_take, if_neg (Nat.sub_ne_zero_of_lt hij), List.getElem?_drop]
    have hi : i + (j - i - 1) = j - 1 := by omega
    rw [hi, List.getElem?_eq_getElem (by omega : j - 1 < ts.length), Option.some_or]
  rw [tokenize_spell_iff, List.extract_eq_take_drop]
  rw [← List.take_append_drop (j - i) (ts.drop i)] at hdrop
  refine hdrop.truncate ?_
  rwa [hlast]

theorem tokenize_extract_behind_lone_digit :
    let source := "n = 4x; // n\nf(2.5)"
    2 < 9 ∧ 9 ≤ (tokenize source .cLike).length ∧
      (∀ d ∈ (tokenize source .cLike)[9 - 1]?, ¬IsLoneDigit d) ∧
      tokenize (spell ((tokenize source .cLike).extract 2 9)) .cLike =
        (tokenize source .cLike).extract 2 9 := by
  have hj : 9 ≤ (tokenize "n = 4x; // n\nf(2.5)" .cLike).length := by decide +kernel
  have hd : (tokenize "n = 4x; // n\nf(2.5)" .cLike)[9 - 1]? = some ⟨.comment, "// n"⟩ := by
    decide +kernel
  have hl : ∀ d ∈ (tokenize "n = 4x; // n\nf(2.5)" .cLike)[9 - 1]?, ¬IsLoneDigit d := by
    rw [hd]
    rintro d hd ⟨c, -, rfl⟩
    cases hd
  exact ⟨by decide, hj, hl, tokenize_extract _ _ (by decide) hj hl⟩

end SourceLens
