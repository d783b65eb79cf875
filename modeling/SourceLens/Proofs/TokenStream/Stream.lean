import SourceLens.Proofs.Lexeme.Form

/-! # Which token lists are streams

The tokens of a text spell it, and each of them stands before what the tokens behind it spell.
No other list of tokens does both. -/
namespace SourceLens

variable {language : Language} {s : List Char} {t : Token} {ts : List Token}

/-- The texts of tokens, one behind the other. -/
def spell (ts : List Token) : String := String.join (ts.map Token.text)

@[simp] theorem spell_nil : spell [] = "" := String.join_nil

@[simp] theorem spell_cons (t : Token) (ts : List Token) : spell (t :: ts) = t.text ++ spell ts :=
  String.join_cons

theorem spell_append (ts us : List Token) : spell (ts ++ us) = spell ts ++ spell us := by
  induction ts with
  | nil => rw [List.nil_append, spell_nil, String.empty_append]
  | cons t ts ih => rw [List.cons_append, spell_cons, spell_cons, ih, String.append_assoc]

theorem spell_singleton (t : Token) : spell [t] = t.text := by
  rw [spell_cons, spell_nil, String.append_empty]

/-- The text of a token lies in what the tokens spell. -/
theorem infix_spell_of_mem (h : t ∈ ts) : t.text.toList <:+: (spell ts).toList := by
  obtain ⟨us, vs, rfl⟩ := List.append_of_mem h
  rw [spell_append, spell_cons, String.toList_append, String.toList_append, ← List.append_assoc]
  exact List.infix_append _ _ _

/-- Every token stands before the text that the tokens behind it spell. -/
def IsStream (language : Language) : List Token → Prop
  | [] => True
  | t :: ts => t.Stands language (spell ts).toList ∧ IsStream language ts

theorem IsStream.of_append {ts us : List Token} (h : IsStream language (ts ++ us)) :
    IsStream language us := by
  induction ts with
  | nil => exact h
  | cons t ts ih => exact ih h.2

theorem IsStream.of_suffix {ts us : List Token} (h : IsStream language ts) (hs : us <:+ ts) :
    IsStream language us := by
  obtain ⟨vs, rfl⟩ := hs
  exact h.of_append

/-- The first token of a stream is the one that its text starts with. -/
theorem IsStream.nextToken?_spell (h : IsStream language (t :: ts)) :
    nextToken? language (spell (t :: ts)).toList = some (t, (spell ts).toList) := by
  rw [spell_cons, String.toList_append]
  exact nextToken?_eq_some_iff.2 ⟨rfl, h.1⟩

theorem tokensOf_eq_iff :
    tokensOf language s = ts ↔ (spell ts).toList = s ∧ IsStream language ts := by
  fun_induction tokensOf language s generalizing ts with
  | case1 s h =>
    rw [nextToken?_eq_none_iff] at h
    subst h
    constructor
    · rintro rfl
      exact ⟨rfl, trivial⟩
    · rintro ⟨hs, hts⟩
      cases ts with
      | nil => rfl
      | cons t ts =>
        rw [spell_cons, String.toList_append] at hs
        have ht : nextToken? language [] = some (t, (spell ts).toList) :=
          nextToken?_eq_some_iff.2 ⟨hs, hts.1⟩
        cases ht
  | case2 s t rest h _ ih =>
    obtain ⟨hs, ht⟩ := nextToken?_eq_some_iff.1 h
    constructor
    · rintro rfl
      obtain ⟨hr, hts⟩ := ih.1 rfl
      refine ⟨?_, ?_, hts⟩
      · rw [spell_cons, String.toList_append, hr, hs]
      · rwa [hr]
    · rintro ⟨hs', hts⟩
      cases ts with
      | nil =>
        rw [← hs', spell_nil, String.toList_empty] at h
        cases h
      | cons u us =>
        rw [spell_cons, String.toList_append] at hs'
        have hu : nextToken? language s = some (u, (spell us).toList) :=
          nextToken?_eq_some_iff.2 ⟨hs', hts.1⟩
        rw [h] at hu
        cases hu
        rw [ih.2 ⟨rfl, hts.2⟩]

theorem spell_tokenize (source : String) (language : Language) :
    spell (tokenize source language) = source :=
  String.toList_inj.1 (tokensOf_eq_iff.1 (Eq.refl (tokensOf language source.toList))).1

theorem tokenize_eq_nil_iff {source : String} : tokenize source language = [] ↔ source = "" := by
  constructor
  · intro h
    rw [← spell_tokenize source language, h, spell_nil]
  · rintro rfl
    exact tokensOf_nil language

theorem isStream_tokenize (source : String) (language : Language) :
    IsStream language (tokenize source language) :=
  (tokensOf_eq_iff.1 (Eq.refl (tokensOf language source.toList))).2

theorem tokenize_spell_iff : tokenize (spell ts) language = ts ↔ IsStream language ts := by
  rw [tokenize, tokensOf_eq_iff]
  exact and_iff_right rfl

theorem Token.Stands.nextToken? {rest : List Char} (h : t.Stands language rest) :
    nextToken? language (t.text.toList ++ rest) = some (t, rest) :=
  nextToken?_eq_some_iff.2 ⟨rfl, h⟩

theorem Token.Stands.text_ne_nil {rest : List Char} (h : t.Stands language rest) :
    t.text.toList ≠ [] :=
  (append_of_nextToken? h.nextToken?).2

theorem IsStream.text_ne_nil (h : IsStream language ts) (ht : t ∈ ts) : t.text.toList ≠ [] := by
  obtain ⟨us, vs, rfl⟩ := List.append_of_mem ht
  exact h.of_append.1.text_ne_nil

theorem text_ne_nil_of_mem_tokenize {source : String} (h : t ∈ tokenize source language) :
    t.text.toList ≠ [] :=
  (isStream_tokenize source language).text_ne_nil h

/-- The character that a token begins with. -/
def Token.first? (t : Token) : Option Char := t.text.toList.head?

theorem Token.exists_first?_eq_some (h : t.text.toList ≠ []) : ∃ c, t.first? = some c := by
  obtain ⟨c, s, hs⟩ := List.exists_cons_of_ne_nil h
  exact ⟨c, by rw [first?, hs, List.head?_cons]⟩

theorem Token.exists_cons_of_first? {c : Char} (h : t.first? = some c) :
    ∃ s, t.text.toList = c :: s := by
  rwa [first?, List.head?_eq_some_iff] at h

theorem head?_spell_cons (h : t.text.toList ≠ []) :
    (spell (t :: ts)).toList.head? = t.first? := by
  rw [spell_cons, String.toList_append, Token.first?, List.head?_append]
  cases hs : t.text.toList with
  | nil => exact absurd hs h
  | cons c s => rfl

/-- What tokens spell begins where the first of them does. -/
theorem head?_spell_eq_some_iff {c : Char} (h : ∀ t ∈ ts, t.text.toList ≠ []) :
    (spell ts).toList.head? = some c ↔ ∃ u ∈ ts.head?, u.first? = some c := by
  cases ts with
  | nil => simp
  | cons u us =>
    rw [head?_spell_cons (h u List.mem_cons_self)]
    simp

theorem IsStream.head?_spell_eq_some_iff {c : Char} (h : IsStream language ts) :
    (spell ts).toList.head? = some c ↔ ∃ u ∈ ts.head?, u.first? = some c :=
  SourceLens.head?_spell_eq_some_iff fun _ => h.text_ne_nil

/-- A token that begins with white space is white space. -/
theorem Token.Stands.kind_of_isSourceBlank {rest : List Char} {c : Char}
    (h : t.Stands language rest) (hc : t.first? = some c) (hb : Text.isSourceBlank c = true) :
    t.kind = .whitespace := by
  obtain ⟨s, hs⟩ := exists_cons_of_first? hc
  have ht := h.nextToken?
  rw [hs, List.cons_append] at ht
  exact SourceLens.kind_of_isSourceBlank hb ht

end SourceLens
