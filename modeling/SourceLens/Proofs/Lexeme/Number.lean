import SourceLens.Proofs.Lexeme.Length
import Mathlib.Order.Bounds.Basic

/-! # The longest number

Of all the numerals at the start of a text that no word character follows, the match is the
longest. The rule tries two of them only: every other cut stands between two digits. -/
namespace SourceLens.Pattern

open Text

variable {source : String} {s x rest : List Char} {n : ℕ}

/-- Digits, alone or on both sides of a point. -/
def IsNumeral (x : List Char) : Prop :=
  Digits x ∨ ∃ whole fraction, x = whole ++ '.' :: fraction ∧ Digits whole ∧ Digits fraction

/-- A numeral of `n` bytes starts the source, and no ASCII letter, digit or underscore follows it. -/
def StartsNumeral (source : String) (n : ℕ) : Prop :=
  ∃ text rest : String, source = text ++ rest ∧ IsNumeral text.toList ∧
    (∀ c ∈ rest.toList.head?, isWordChar c = false) ∧ text.utf8ByteSize = n

theorem isNumeral_of_splitNumber? (h : splitNumber? s = some (x, rest)) :
    x ++ rest = s ∧ IsNumeral x ∧ atWordBoundary rest = true := by
  obtain ⟨hs, hr, ⟨hx, -⟩ | hx⟩ := splitNumber?_eq_some_iff.1 h
  · exact ⟨hs, .inl hx, hr⟩
  · exact ⟨hs, .inr hx, hr⟩

/-- A numeral that may end where it does is the number that is cut off, or the whole part of it. -/
theorem IsNumeral.exists_splitNumber? (hx : IsNumeral x) (hr : atWordBoundary rest = true) :
    ∃ y t, splitNumber? (x ++ rest) = some (y, t) ∧ x <+: y := by
  obtain hx | hx := hx
  · cases hf : splitFraction? rest with
    | none => exact ⟨x, rest, splitNumber?_eq_some_iff.2 ⟨rfl, hr, .inl ⟨hx, hf⟩⟩, List.prefix_rfl⟩
    | some split =>
      obtain ⟨y, t⟩ := split
      obtain ⟨ht, ⟨fraction, rfl, hfraction⟩, hbound⟩ := splitFraction?_eq_some_iff.1 hf
      refine ⟨x ++ '.' :: fraction, t, splitNumber?_eq_some_iff.2 ⟨?_, hbound, ?_⟩,
        List.prefix_append x _⟩
      · rw [List.append_assoc, ht]
      · exact .inr ⟨x, fraction, rfl, hx, hfraction⟩
  · exact ⟨x, rest, splitNumber?_eq_some_iff.2 ⟨rfl, hr, .inr hx⟩, List.prefix_rfl⟩

theorem startsNumeral_of_matchLength? (h : number.matchLength? source = some n) :
    StartsNumeral source n := by
  obtain ⟨text, rest, hs, hn⟩ := matchLength?_eq_some_iff_cut.1 h
  obtain ⟨hs, htext, hr⟩ := isNumeral_of_splitNumber? hs
  exact ⟨text, rest, eq_append_iff.2 hs, htext, atWordBoundary_iff.1 hr, hn⟩

/-- A numeral at the start is not longer than the match. -/
theorem StartsNumeral.exists_matchLength? (h : StartsNumeral source n) :
    ∃ m, number.matchLength? source = some m ∧ n ≤ m := by
  obtain ⟨text, rest, rfl, htext, hr, rfl⟩ := h
  obtain ⟨y, t, hy, hp⟩ := htext.exists_splitNumber? (atWordBoundary_iff.2 hr)
  rw [← String.toList_append] at hy
  refine ⟨utf8Length y, matchLength?_eq_some_iff.2 ⟨y, t, hy, rfl⟩, ?_⟩
  rw [← utf8Length_toList]
  exact utf8Length_mono hp

theorem matchLength?_number_eq_some_iff :
    number.matchLength? source = some n ↔ IsGreatest {m | StartsNumeral source m} n := by
  constructor
  · intro h
    refine ⟨startsNumeral_of_matchLength? h, fun m hm => ?_⟩
    obtain ⟨k, hk, hle⟩ := StartsNumeral.exists_matchLength? hm
    obtain rfl : n = k := Option.some.inj (h.symm.trans hk)
    exact hle
  · rintro ⟨hn, hgreatest⟩
    obtain ⟨m, hm, hle⟩ := StartsNumeral.exists_matchLength? hn
    obtain rfl : n = m := le_antisymm hle (hgreatest (startsNumeral_of_matchLength? hm))
    exact hm

theorem matchLength?_number_eq_none_iff :
    number.matchLength? source = none ↔ ∀ n, ¬StartsNumeral source n := by
  constructor
  · intro h n hn
    obtain ⟨m, hm, -⟩ := hn.exists_matchLength?
    rw [h] at hm
    cases hm
  · intro h
    rw [Option.eq_none_iff_forall_ne_some]
    intro n hn
    exact h n (startsNumeral_of_matchLength? hn)

/-- A number matches with the greatest length of a numeral at the start that no word character
follows, and it does not match if there is no such numeral. -/
theorem matchLength?_number (source : String) :
    (∀ n, number.matchLength? source = some n ↔ IsGreatest {m | StartsNumeral source m} n) ∧
      (number.matchLength? source = none ↔ ∀ n, ¬StartsNumeral source n) :=
  ⟨fun _ => matchLength?_number_eq_some_iff, matchLength?_number_eq_none_iff⟩

end SourceLens.Pattern
