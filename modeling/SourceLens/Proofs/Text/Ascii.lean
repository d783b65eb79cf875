import SourceLens.Proofs.Text.ByteOrder
import SourceLens.Proofs.Text.Split

/-! # ASCII characters on bytes

An ASCII character is one byte, and no byte of another character is one of these. So a class of
ASCII characters can be told from bytes, wherever in a text they stand. -/
namespace SourceLens.Text

variable {p : Char → Bool} {c : Char} {b : UInt8} {s : List Char}

/-- The bytes of a list of characters. -/
def encode (s : List Char) : List UInt8 := s.flatMap String.utf8EncodeChar

@[simp] theorem encode_nil : encode [] = [] := rfl

@[simp] theorem encode_append (s t : List Char) : encode (s ++ t) = encode s ++ encode t :=
  List.flatMap_append

theorem encode_cons (c : Char) (s : List Char) :
    encode (c :: s) = String.utf8EncodeChar c ++ encode s := rfl

@[simp] theorem length_encode (s : List Char) : (encode s).length = utf8Length s := by
  have h := length_utf8 (String.ofList s)
  rwa [utf8, String.toList_ofList] at h

theorem encode_eq_nil_iff : encode s = [] ↔ s = [] := by
  cases s with
  | nil => simp
  | cons c s => simp [encode_cons, String.utf8EncodeChar_ne_nil]

theorem utf8_prefix_encode_iff {t : String} : utf8 t <+: encode s ↔ t.toList <+: s := by
  have h := @utf8_prefix_iff t (String.ofList s)
  rwa [String.toList_ofList, utf8, utf8, String.toList_ofList] at h

/-- The classes that hold ASCII characters only. -/
def IsAscii (p : Char → Bool) : Prop := ∀ c, p c = true → c.toNat < 128

/-- Whether a byte is an ASCII character of the class. -/
def onByte (p : Char → Bool) (b : UInt8) : Bool := decide (b.toNat < 128) && p (Char.ofNat b.toNat)

theorem utf8EncodeChar_of_lt (h : c.toNat < 128) :
    String.utf8EncodeChar c = [UInt8.ofNat c.toNat] :=
  if_pos (Nat.le_of_lt_succ h)

theorem utf8Size_of_lt (h : c.toNat < 128) : c.utf8Size = 1 := by
  rw [← String.length_utf8EncodeChar, utf8EncodeChar_of_lt h]
  rfl

theorem tail_encode_cons (h : c.toNat < 128) (s : List Char) :
    (encode (c :: s)).tail = encode s := by
  rw [encode_cons, utf8EncodeChar_of_lt h]
  rfl

theorem le_of_mem_utf8EncodeChar (h : 128 ≤ c.toNat) (hb : b ∈ String.utf8EncodeChar c) :
    128 ≤ b.toNat := by
  have h : 128 ≤ c.val.toNat := h
  unfold String.utf8EncodeChar at hb
  generalize c.val.toNat = n at h hb
  dsimp only at hb
  rw [if_neg (by omega)] at hb
  split_ifs at hb <;> simp only [List.mem_cons, List.not_mem_nil, or_false] at hb <;>
    rcases hb with rfl | rfl | rfl | rfl <;> rw [UInt8.toNat_ofNat'] <;> omega

theorem exists_utf8EncodeChar_eq (hp : IsAscii p) (c : Char) :
    ∃ b bytes, String.utf8EncodeChar c = b :: bytes ∧ onByte p b = p c ∧
      (p c = true → bytes = []) := by
  by_cases hc : c.toNat < 128
  · refine ⟨_, [], utf8EncodeChar_of_lt hc, ?_, fun _ => rfl⟩
    have hmod : c.toNat % 2 ^ 8 = c.toNat := Nat.mod_eq_of_lt (by omega)
    rw [onByte, UInt8.toNat_ofNat', hmod, Char.ofNat_toNat, decide_eq_true hc, Bool.true_and]
  · have hpc : p c = false := by
      rw [← Bool.not_eq_true]
      exact mt (hp c) hc
    obtain ⟨b, bytes, h⟩ := List.exists_cons_of_ne_nil (String.utf8EncodeChar_ne_nil (c := c))
    have hb : 128 ≤ b.toNat := le_of_mem_utf8EncodeChar (not_lt.1 hc) (h ▸ List.mem_cons_self)
    refine ⟨b, bytes, h, ?_, fun h => ?_⟩
    · rw [hpc, onByte, decide_eq_false (not_lt.2 hb), Bool.false_and]
    · rw [hpc] at h
      cases h

theorem any_head?_encode (hp : IsAscii p) (s : List Char) :
    (encode s).head?.any (onByte p) = s.head?.any p := by
  cases s with
  | nil => rfl
  | cons c s =>
    obtain ⟨b, bytes, h, hb, -⟩ := exists_utf8EncodeChar_eq hp c
    rw [encode_cons, h]
    exact hb

/-- A run of the class is the same run on bytes. -/
theorem takeWhile_encode (hp : IsAscii p) (s : List Char) :
    (encode s).takeWhile (onByte p) = encode (run p s).1 := by
  induction s with
  | nil => rfl
  | cons c s ih =>
    obtain ⟨b, bytes, h, hb, hbytes⟩ := exists_utf8EncodeChar_eq hp c
    rw [run] at ih ⊢
    rw [encode_cons, h, List.cons_append]
    cases hc : p c with
    | false => simp [hb, hc]
    | true => simp [hb, hc, hbytes, ih, encode_cons, h]

theorem dropWhile_encode (hp : IsAscii p) (s : List Char) :
    (encode s).dropWhile (onByte p) = encode (run p s).2 := by
  have h : (encode s).takeWhile (onByte p) ++ (encode s).dropWhile (onByte p) = encode s :=
    List.takeWhile_append_dropWhile
  rw [takeWhile_encode hp] at h
  have hrun : encode (run p s).1 ++ encode (run p s).2 = encode s := by
    rw [← encode_append, run_append]
  exact List.append_cancel_left (h.trans hrun.symm)

end SourceLens.Text
