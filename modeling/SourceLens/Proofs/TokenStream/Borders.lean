import SourceLens.Proofs.TokenStream.Printing
import SourceLens.Proofs.TokenStream.Slices

/-! # Borders between tokens

A token takes all the text that it can. What follows it shows this: the next tokens begin with
nothing that would have made it longer, and a digit that is no number stands before a word
character. -/
namespace SourceLens

open Text Pattern

variable {language : Language} {rest : List Char} {c : Char} {t u : Token} {ts : List Token}

/-- A token ends where it has to, seen from the tokens behind it. -/
structure Token.Maximal (language : Language) (t : Token) (ts : List Token) : Prop where
  blanks : t.kind = .whitespace → ∀ u ∈ ts.head?, u.kind ≠ .whitespace
  word : t.kind = .keyword ∨ t.kind = .identifier ∨ t.kind = .number →
    ∀ u ∈ ts.head?, ¬u.beginsWith isWordChar
  operator : t.kind = .operator → t.text.length = 1 →
    ∀ u ∈ ts.head?, ¬u.beginsWith fun c => t.text.push c ∈ doubleOperators
  slash : language = .cLike → t = ⟨.operator, "/"⟩ → ∀ u ∈ ts.head?, u.first? ≠ some '/'
  fraction : t.kind = .number → '.' ∉ t.text.toList →
    ts.head? = some ⟨.operator, "."⟩ → ∀ u ∈ ts.tail.head?, u.kind ≠ .number
  line : t.kind = .comment → language.lineMark <+: t.text.toList →
    ∀ u ∈ ts.head?, u.kind = .whitespace ∧ u.first? = some '\n'
  digit : IsLoneDigit t → ∃ u ∈ ts.head?, u.beginsWith isWordChar

/-! ## What may follow a token -/

namespace Token.Stands

theorem blanks_end (h : t.Stands language rest) (hk : t.kind = .whitespace) :
    ∀ c ∈ rest.head?, isSourceBlank c = false := by
  obtain ⟨form, hform, -, he⟩ := h.exists_form hk
  obtain rfl := List.mem_singleton.1 hform
  exact he

theorem isSourceBlank_of_first? (h : t.Stands language rest) (hk : t.kind = .whitespace)
    (hc : t.first? = some c) : isSourceBlank c = true := by
  obtain ⟨form, hform, hf, -⟩ := h.exists_form hk
  obtain rfl := List.mem_singleton.1 hform
  obtain ⟨s, hs⟩ := exists_cons_of_first? hc
  exact hf.2 c (hs ▸ List.mem_cons_self)

theorem line_ends (h : t.Stands language rest) (hk : t.kind = .comment)
    (hm : language.lineMark <+: t.text.toList) : ∀ c ∈ rest.head?, c = '\n' := by
  obtain ⟨form, hform, hf, he⟩ := h.exists_form hk
  obtain rfl | rfl : form = .line ∨ form = .block := by simpa [Form.ofKind] using hform
  · exact he
  · obtain ⟨rfl, hs⟩ := hf
    obtain ⟨inner, body, -, -, hx⟩ := splitDelimited?_eq_some_iff.1 hs
    rw [hx] at hm
    simp [Language.lineMark] at hm

/-- The number that starts where the token does is the token. -/
theorem splitNumber?_eq (h : t.Stands language rest) (hk : t.kind = .number) :
    splitNumber? (t.text.toList ++ rest) = some (t.text.toList, rest) := by
  rw [splitNumber?_eq_some_iff]
  obtain ⟨form, hform, hf, he⟩ := h.exists_form hk
  obtain rfl | rfl : form = .integer ∨ form = .decimal := by simpa [Form.ofKind] using hform
  · exact ⟨rfl, he.1, .inl ⟨hf, he.2⟩⟩
  · exact ⟨rfl, he, .inr hf⟩

theorem word_ends (h : t.Stands language rest)
    (hk : t.kind = .keyword ∨ t.kind = .identifier ∨ t.kind = .number) :
    atWordBoundary rest = true := by
  rcases hk with hk | hk | hk
  · obtain ⟨form, hform, -, he⟩ := h.exists_form hk
    obtain rfl := List.mem_singleton.1 hform
    exact he
  · obtain ⟨form, hform, -, he⟩ := h.exists_form hk
    obtain rfl := List.mem_singleton.1 hform
    exact he
  · exact (splitNumber?_eq_some_iff.1 (h.splitNumber?_eq hk)).2.1

/-- A number without a point has none behind it, either, that would start a fraction. -/
theorem splitFraction?_eq_none (h : t.Stands language rest) (hk : t.kind = .number)
    (hp : '.' ∉ t.text.toList) : splitFraction? rest = none := by
  obtain ⟨-, -, ⟨-, hf⟩ | ⟨a, b, hx, -⟩⟩ := splitNumber?_eq_some_iff.1 (h.splitNumber?_eq hk)
  · exact hf
  · exact absurd (hx ▸ List.mem_append_right a List.mem_cons_self) hp

/-- An operator of one character is one that no double operator starts with, and no comment. -/
theorem single_ends (h : t.Stands language rest) (hk : t.kind = .operator)
    (hl : t.text.length = 1) : Form.single.Ends language t.text.toList rest := by
  obtain ⟨form, hform, hf, he⟩ := h.exists_form hk
  obtain rfl | rfl : form = .double ∨ form = .single := by simpa [Form.ofKind] using hform
  · have hlength := length_of_mem_doubleOperators hf
    rw [String.toList_ofList, String.length_toList, hl] at hlength
    cases hlength
  · exact he

/-- A digit that is no number runs into a word, so there is a word character behind it. -/
theorem exists_isWordChar (h : t.Stands language rest) (hd : IsLoneDigit t) :
    ∃ c ∈ rest.head?, isWordChar c = true := by
  obtain ⟨d, hd, rfl⟩ := hd
  obtain ⟨form, hform, -, he⟩ := h.exists_form rfl
  obtain rfl := List.mem_singleton.1 hform
  obtain ⟨hn, -⟩ := he
  rw [String.toList_singleton, List.singleton_append, splitNumber?_digit_eq_none_iff hd] at hn
  by_contra hnone
  have hboundary : atWordBoundary rest = true := by
    rw [atWordBoundary_iff]
    intro c hc
    rw [← Bool.not_eq_true]
    exact fun hw => hnone ⟨c, hc, hw⟩
  have hdigit : ∀ c ∈ [d], c.isDigit = true := fun c hc => List.mem_singleton.1 hc ▸ hd
  exact not_runsIntoWord_of_atWordBoundary hboundary ((runsIntoWord_append hdigit).1 hn)

end Token.Stands

/-! ## The tokens behind a token -/

/-- Every token of a stream ends where it has to. -/
theorem IsStream.maximal (h : IsStream language (t :: ts)) : t.Maximal language ts where
  blanks hk u hu hw := by
    obtain ⟨us, rfl⟩ := List.head?_eq_some_iff.1 hu
    obtain ⟨c, hc⟩ := Token.exists_first?_eq_some h.2.1.text_ne_nil
    have hend := h.1.blanks_end hk c (h.2.head?_spell_eq_some_iff.2 ⟨u, rfl, hc⟩)
    rw [h.2.1.isSourceBlank_of_first? hw hc] at hend
    cases hend
  word hk u hu hw := by
    obtain ⟨c, hc, hw⟩ := (Option.any_eq_true _ _).1 hw
    have hhead := h.2.head?_spell_eq_some_iff.2 ⟨u, hu, hc⟩
    have hend := atWordBoundary_iff.1 (h.1.word_ends hk) c hhead
    rw [hw] at hend
    cases hend
  operator hk hl u hu hd := by
    obtain ⟨c, hc, hd⟩ := (Option.any_eq_true _ _).1 hd
    have hhead := h.2.head?_spell_eq_some_iff.2 ⟨u, hu, hc⟩
    have hend := (h.1.single_ends hk hl).1 c hhead
    rw [← String.toList_push, String.ofList_toList] at hend
    exact hend (of_decide_eq_true hd)
  slash hl ht u hu hc := by
    subst ht
    have hend := (h.1.single_ends rfl rfl).2
    obtain ⟨r, hr⟩ := List.head?_eq_some_iff.1 (h.2.head?_spell_eq_some_iff.2 ⟨u, hu, hc⟩)
    rw [hr, splitComment?_eq_none_iff, hl] at hend
    exact hend.1 (List.prefix_append ['/', '/'] r)
  fraction hk hp hu v hv hn := by
    obtain ⟨us, rfl⟩ := List.head?_eq_some_iff.1 hu
    obtain ⟨vs, rfl⟩ := List.head?_eq_some_iff.1 hv
    have hend := h.1.splitFraction?_eq_none hk hp
    rw [spell_cons, String.toList_append, spell_cons, String.toList_append] at hend
    have hnumber : splitNumber? (v.text.toList ++ (spell vs).toList) = none :=
      splitFraction?_eq_none_iff.1 hend _ rfl
    rw [h.2.2.1.splitNumber?_eq hn] at hnumber
    cases hnumber
  line hk hm u hu := by
    obtain ⟨us, rfl⟩ := List.head?_eq_some_iff.1 hu
    obtain ⟨c, hc⟩ := Token.exists_first?_eq_some h.2.1.text_ne_nil
    obtain rfl := h.1.line_ends hk hm c (h.2.head?_spell_eq_some_iff.2 ⟨u, rfl, hc⟩)
    exact ⟨h.2.1.kind_of_isSourceBlank hc (by decide), hc⟩
  digit hd := by
    obtain ⟨c, hc, hw⟩ := h.1.exists_isWordChar hd
    obtain ⟨u, hu, hfirst⟩ := h.2.head?_spell_eq_some_iff.1 hc
    exact ⟨u, hu, (Option.any_eq_true _ _).2 ⟨c, hfirst, hw⟩⟩

/-- Wherever tokens of a text meet, the first of them could not have been longer: white space is
not followed by white space, nor a word or a number by a word character, nor an operator by what
would make it a double one or a line comment, nor digits by a fraction. Line comments end with their
lines, and a digit is unknown only in front of a word character. -/
theorem tokenize_maximal {source : String} (h : t :: ts <:+ tokenize source language) :
    t.Maximal language ts :=
  ((isStream_tokenize source language).of_suffix h).maximal

theorem tokenize_maximal_dropped_fraction :
    let later : List Token := [⟨.operator, "."⟩, ⟨.unknown, "5"⟩, ⟨.identifier, "e"⟩,
      ⟨.operator, "/="⟩, ⟨.operator, "/"⟩, ⟨.whitespace, " "⟩, ⟨.comment, "// n"⟩]
    ⟨.number, "1"⟩ :: later <:+ tokenize "n=1.5e/=/ // n" .cLike ∧
      Token.Maximal .cLike ⟨.number, "1"⟩ later := by
  intro later
  have htokens : [⟨.identifier, "n"⟩, ⟨.operator, "="⟩] ++ ⟨.number, "1"⟩ :: later =
      tokenize "n=1.5e/=/ // n" .cLike := by decide +kernel
  have h : ⟨.number, "1"⟩ :: later <:+ tokenize "n=1.5e/=/ // n" .cLike := ⟨_, htokens⟩
  exact ⟨h, tokenize_maximal h⟩

end SourceLens
