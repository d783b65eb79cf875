import SourceLens.Text.ByteOrder
import SourceLens.Text.Split
import Mathlib.Data.String.Basic

/-! # The order of bytes is the order of code points

UTF-8 writes a greater code point as greater bytes, so texts compare by their bytes as they do by
their characters. Nor do the bytes of one character begin those of another, so a beginning of a text
in bytes is one in characters. -/
namespace SourceLens.Text

/-- The code points of a text. -/
def codePoints (s : String) : List Nat := s.toList.map Char.toNat

variable {c d : Char} {s t : String}

theorem compareBytes_self (x : List UInt8) : compareBytes x x = .eq := by
  induction x with
  | nil => rfl
  | cons a x ih => simp [compareBytes, ih]

theorem compareBytes_append (a x y : List UInt8) :
    compareBytes (a ++ x) (a ++ y) = compareBytes x y := by
  induction a with
  | nil => rfl
  | cons b a ih => simp [compareBytes, ih]

theorem swap_compareBytes (x y : List UInt8) : (compareBytes x y).swap = compareBytes y x := by
  induction x generalizing y with
  | nil => cases y <;> rfl
  | cons a x ih =>
    cases y with
    | nil => rfl
    | cons b y =>
      by_cases hab : a < b
      · simp [compareBytes, hab, UInt8.lt_asymm hab]
      · by_cases hba : b < a
        · simp [compareBytes, hab, hba]
        · simp [compareBytes, hab, hba, ih]

theorem compareBytes_ofNat_cons {a b : Nat} (ha : a < 256) (hb : b < 256) (x y : List UInt8) :
    compareBytes (UInt8.ofNat a :: x) (UInt8.ofNat b :: y) = .lt ↔
      a < b ∨ a = b ∧ compareBytes x y = .lt := by
  have hlt : ∀ {m n : Nat}, m < 256 → n < 256 → (UInt8.ofNat m < UInt8.ofNat n ↔ m < n) := by
    intro m n hm hn
    rw [UInt8.lt_iff_toNat_lt, UInt8.toNat_ofNat', UInt8.toNat_ofNat', Nat.mod_eq_of_lt hm,
      Nat.mod_eq_of_lt hn]
  simp only [compareBytes, hlt ha hb, hlt hb ha]
  split
  · simp [*]
  · split
    · simp only [reduceCtorEq, false_iff]
      omega
    · have : a = b := by omega
      simp [*]

/-- Bytes of a smaller code point are smaller, and neither is the beginning of the other. -/
theorem compareBytes_utf8EncodeChar (h : c < d) (x y : List UInt8) :
    compareBytes (String.utf8EncodeChar c ++ x) (String.utf8EncodeChar d ++ y) = .lt := by
  have hlt : c.val.toNat < d.val.toNat := h
  have hd : d.val.toNat < 0x110000 := by
    have := d.valid
    simp only [UInt32.isValidChar, Nat.isValidChar] at this
    omega
  unfold String.utf8EncodeChar
  generalize c.val.toNat = m at hlt ⊢
  generalize d.val.toNat = n at hlt hd ⊢
  dsimp only
  have hm : m / 4096 = m / 64 / 64 ∧ m / 262144 = m / 64 / 64 / 64 := by omega
  have hn : n / 4096 = n / 64 / 64 ∧ n / 262144 = n / 64 / 64 / 64 := by omega
  have hm₃ : m / 64 / 64 / 64 % 8 = m / 64 / 64 / 64 := by omega
  have hn₃ : n / 64 / 64 / 64 % 8 = n / 64 / 64 / 64 := by omega
  rw [hm.1, hm.2, hn.1, hn.2, hm₃, hn₃]
  split_ifs <;> simp (disch := omega) only [List.cons_append, List.nil_append,
    compareBytes_ofNat_cons] <;> omega

theorem byteOrder_of_lt (h : s < t) : byteOrder s t = .lt := by
  have h : s.toList < t.toList := h
  unfold byteOrder utf8
  generalize s.toList = x at h
  generalize t.toList = y at h
  induction h with
  | @nil d y =>
    obtain ⟨b, z, hb⟩ := List.exists_cons_of_ne_nil (String.utf8EncodeChar_ne_nil (c := d))
    simp [hb, compareBytes]
  | rel h =>
    rw [List.flatMap_cons, List.flatMap_cons]
    exact compareBytes_utf8EncodeChar h _ _
  | cons h ih =>
    rw [List.flatMap_cons, List.flatMap_cons, compareBytes_append]
    exact ih

theorem byteOrder_self (s : String) : byteOrder s s = .eq := compareBytes_self _

theorem swap_byteOrder (s t : String) : (byteOrder s t).swap = byteOrder t s :=
  swap_compareBytes _ _

/-- The order of bytes is the order of code points. -/
theorem byteOrder_eq_compare (s t : String) : byteOrder s t = compare s t := by
  rcases lt_trichotomy s t with h | rfl | h
  · rw [byteOrder_of_lt h, compare_lt_iff_lt.2 h]
  · rw [byteOrder_self, compare_eq_iff_eq.2 rfl]
  · rw [← swap_byteOrder, byteOrder_of_lt h, compare_gt_iff_gt.2 h]
    rfl

theorem atMost_iff : atMost s t = true ↔ s ≤ t := by
  rw [atMost, byteOrder_eq_compare, bne_iff_ne, compare_le_iff_le]

theorem map_toNat_lt_iff {x y : List Char} : x.map Char.toNat < y.map Char.toNat ↔ x < y := by
  induction x generalizing y with
  | nil => cases y <;> simp
  | cons c x ih =>
    cases y with
    | nil => simp
    | cons d y =>
      have hlt : c.toNat < d.toNat ↔ c < d := Iff.rfl
      rw [List.map_cons, List.map_cons, List.cons_lt_cons_iff, List.cons_lt_cons_iff, ih, hlt,
        Char.toNat_inj]

theorem codePoints_lt_iff : codePoints s < codePoints t ↔ s < t := map_toNat_lt_iff

/-! ## Beginnings -/

theorem not_lt_of_utf8EncodeChar_append_eq {x y : List UInt8}
    (h : String.utf8EncodeChar c ++ x = String.utf8EncodeChar d ++ y) : ¬c < d := by
  intro hlt
  have horder := compareBytes_utf8EncodeChar hlt x y
  rw [h, compareBytes_self] at horder
  cases horder

theorem isPrefix_of_isPrefix_bytes {x y : List Char}
    (h : x.flatMap String.utf8EncodeChar <+: y.flatMap String.utf8EncodeChar) : x <+: y := by
  induction x generalizing y with
  | nil => exact List.nil_prefix
  | cons c x ih =>
    obtain ⟨rest, h⟩ := h
    cases y with
    | nil =>
      rw [List.flatMap_cons, List.append_assoc] at h
      exact absurd (List.append_eq_nil_iff.1 h).1 String.utf8EncodeChar_ne_nil
    | cons d y =>
      rw [List.flatMap_cons, List.flatMap_cons, List.append_assoc] at h
      obtain rfl : c = d := by
        apply le_antisymm
        · exact not_lt.1 (not_lt_of_utf8EncodeChar_append_eq h.symm)
        · exact not_lt.1 (not_lt_of_utf8EncodeChar_append_eq h)
      exact (List.prefix_cons_inj c).2 (ih ⟨rest, List.append_cancel_left h⟩)

theorem utf8_prefix_iff : utf8 s <+: utf8 t ↔ s.toList <+: t.toList := by
  refine ⟨isPrefix_of_isPrefix_bytes, ?_⟩
  rintro ⟨rest, h⟩
  exact ⟨rest.flatMap String.utf8EncodeChar, by rw [utf8, utf8, ← h, List.flatMap_append]⟩

theorem length_utf8 (s : String) : (utf8 s).length = utf8Length s.toList := by
  rw [utf8]
  induction s.toList with
  | nil => rfl
  | cons c x ih =>
    rw [List.flatMap_cons, List.length_append, ih, String.length_utf8EncodeChar, utf8Length_cons]

end SourceLens.Text
