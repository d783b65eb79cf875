import SourceLens.Proofs.Text.Split
import SourceLens.Lexeme.Pattern

/-! # The classes of characters that start a lexeme

White space, quotes, digits, word starts and operators exclude each other, so the first character
of a text leaves few patterns to try. -/
namespace SourceLens

open Text Pattern

/-- A printable ASCII character other than the space. -/
def IsVisible (c : Char) : Prop := 33 ≤ c.toNat ∧ c.toNat ≤ 126

instance (c : Char) : Decidable (IsVisible c) := inferInstanceAs (Decidable (_ ∧ _))

theorem IsVisible.not_blank {c : Char} (h : IsVisible c) : isSourceBlank c = false := by
  have hb : isBlank c = false := by
    rw [← Bool.not_eq_true, isBlank, inRanges_iff]
    rintro ⟨r, hr, h₁, h₂⟩
    obtain ⟨h₃, h₄⟩ := h
    simp only [blankRanges, List.mem_cons, List.not_mem_nil, or_false] at hr
    rcases hr with rfl | rfl | rfl | rfl | rfl | rfl | rfl | rfl | rfl | rfl <;>
      simp only at h₁ h₂ <;> omega
  have hm : c ≠ '\ufeff' := by
    rintro rfl
    exact absurd h (by decide)
  simp [isSourceBlank, hb, hm]

namespace Pattern

theorem isDigit_iff {c : Char} : c.isDigit = true ↔ 48 ≤ c.toNat ∧ c.toNat ≤ 57 :=
  Char.isDigit_iff_toNat

theorem isAlpha_iff {c : Char} :
    c.isAlpha = true ↔ 65 ≤ c.toNat ∧ c.toNat ≤ 90 ∨ 97 ≤ c.toNat ∧ c.toNat ≤ 122 := by
  have hupper : c.isUpper = true ↔ 65 ≤ c.toNat ∧ c.toNat ≤ 90 := decide_eq_true_iff
  have hlower : c.isLower = true ↔ 97 ≤ c.toNat ∧ c.toNat ≤ 122 := by
    change (decide (97 ≤ c.toNat) && decide (c.toNat ≤ 122)) = true ↔ _
    rw [Bool.and_eq_true, decide_eq_true_iff, decide_eq_true_iff]
  change (c.isUpper || c.isLower) = true ↔ _
  rw [Bool.or_eq_true, hupper, hlower]

/-- The code points of word starts: capitals, small letters, the underscore. -/
theorem isWordStart_iff {c : Char} :
    isWordStart c = true ↔
      (65 ≤ c.toNat ∧ c.toNat ≤ 90 ∨ 97 ≤ c.toNat ∧ c.toNat ≤ 122) ∨ c.toNat = 95 := by
  have hunderscore : c = '_' ↔ c.toNat = 95 := Char.toNat_inj.symm
  rw [isWordStart, Bool.or_eq_true, isAlpha_iff, beq_iff_eq, hunderscore]

theorem isWordChar_iff {c : Char} :
    isWordChar c = true ↔ isWordStart c = true ∨ c.isDigit = true := by
  rw [isWordChar, isWordStart, Char.isAlphanum, Bool.or_eq_true, Bool.or_eq_true, Bool.or_eq_true,
    or_right_comm]

theorem isWordChar_of_isDigit {c : Char} (h : c.isDigit = true) : isWordChar c = true :=
  isWordChar_iff.2 (.inr h)

theorem isWordChar_of_isWordStart {c : Char} (h : isWordStart c = true) : isWordChar c = true :=
  isWordChar_iff.2 (.inl h)

theorem isVisible_of_isWordChar {c : Char} (h : isWordChar c = true) : IsVisible c := by
  rw [isWordChar_iff, isWordStart_iff, isDigit_iff] at h
  rw [IsVisible]
  omega

/-- A word character opens neither a comment nor a string nor an operator. -/
theorem of_isWordChar {c : Char} (h : isWordChar c = true) :
    c ∉ singleOperators.toList ∧ c ≠ '"' ∧ c ≠ '\'' ∧ c ≠ '/' ∧ c ≠ '#' := by
  refine ⟨?_, ?_, ?_, ?_, ?_⟩
  · have hs : singleOperators.toList.any isWordChar = false := by decide
    intro hc
    exact List.any_eq_false.1 hs c hc h
  all_goals
    rintro rfl
    exact absurd h (by decide)

theorem isWordStart_eq_false_of_isDigit {c : Char} (h : c.isDigit = true) :
    isWordStart c = false := by
  rw [isDigit_iff] at h
  rw [← Bool.not_eq_true, isWordStart_iff]
  omega

theorem isDigit_eq_false_of_isWordStart {c : Char} (h : isWordStart c = true) :
    c.isDigit = false := by
  rw [isWordStart_iff] at h
  rw [← Bool.not_eq_true, isDigit_iff]
  omega

theorem isDigit_eq_false_of_isWordChar {c : Char} (h : isWordChar c = false) :
    c.isDigit = false := by
  rw [← Bool.not_eq_true] at h ⊢
  exact mt isWordChar_of_isDigit h

theorem isVisible_of_quote {q : Char} (h : q = '"' ∨ q = '\'') : IsVisible q := by
  rcases h with rfl | rfl <;> decide

theorem ne_backslash_of_quote {q : Char} (h : q = '"' ∨ q = '\'') : q ≠ '\\' := by
  rcases h with rfl | rfl <;> decide

/-- What an operator's first character is not. -/
theorem of_mem_singleOperators {c : Char} (h : c ∈ singleOperators.toList) :
    IsVisible c ∧ isWordChar c = false ∧ c ≠ '"' ∧ c ≠ '\'' ∧ c ≠ '#' ∧ c ≠ '\\' := by
  have hs : singleOperators.toList.all fun c =>
      IsVisible c ∧ isWordChar c = false ∧ c ≠ '"' ∧ c ≠ '\'' ∧ c ≠ '#' ∧ c ≠ '\\' := by decide
  exact of_decide_eq_true (List.all_eq_true.1 hs c h)

/-- Each double operator is made of two characters; the first one alone is an operator, too. -/
theorem of_mem_doubleOperators {op : String} (h : op ∈ doubleOperators) :
    ∃ a ∈ singleOperators.toList, ∃ b ∈ ['>', '+', '-', '&', '|', '='], op.toList = [a, b] := by
  have hs : doubleOperators.all fun op => singleOperators.toList.any fun a =>
      ['>', '+', '-', '&', '|', '='].any fun b => op.toList = [a, b] := by decide
  simp only [List.all_eq_true, List.any_eq_true, decide_eq_true_eq] at hs
  exact hs op h

end Pattern

end SourceLens
