import SourceLens.Proofs.Json.RoundTrip
import SourceLens.Proofs.Text.Split
import SourceLens.Text.Quoted

/-! # Quoted text can be read back

The written form of a character can be told from what stands behind it, so a quoted text determines
the text. No control character is left in it. -/
namespace SourceLens.Text

variable {c d : Char} {s t r : List Char}

/-! ## Hexadecimal digits -/

/-- The number that hexadecimal digits write. -/
def hexValue (digits : List Char) : Nat :=
  digits.foldl (fun n c => 16 * n + (Json.hexDigit? c).getD 0) 0

theorem hexValue_append_digitChar (s : List Char) {n : Nat} (h : n < 16) :
    hexValue (s ++ [n.digitChar]) = 16 * hexValue s + n := by
  rw [hexValue, List.foldl_append, List.foldl_cons, List.foldl_nil, Json.hexDigit?_digitChar h]
  rfl

theorem hexValue_toDigits (n : Nat) : hexValue (Nat.toDigits 16 n) = n := by
  induction n using Nat.strongRecOn with
  | ind n ih =>
    rw [Nat.toDigits_eq_if (by decide)]
    split
    · next h =>
      have hone := hexValue_append_digitChar [] h
      simpa [hexValue] using hone
    · next h =>
      rw [hexValue_append_digitChar _ (Nat.mod_lt n (by decide)), ih (n / 16) (by omega)]
      omega

theorem exists_of_mem_toDigits {n : Nat} (h : c ∈ Nat.toDigits 16 n) :
    ∃ digit < 16, c = Nat.digitChar digit := by
  induction n using Nat.strongRecOn with
  | ind n ih =>
    rw [Nat.toDigits_eq_if (by decide)] at h
    split at h
    · next hn => exact ⟨n, hn, List.mem_singleton.1 h⟩
    · rcases List.mem_append.1 h with h | h
      · exact ih (n / 16) (by omega) h
      · exact ⟨n % 16, Nat.mod_lt n (by decide), List.mem_singleton.1 h⟩

/-! ## Reading back -/

/-- The characters with a short written form, by the letter behind the backslash. -/
def shortForms : List (Char × Char) :=
  [('0', '\x00'), ('t', '\t'), ('n', '\n'), ('r', '\r'), ('"', '"'), ('\\', '\\')]

/-- The character that is written behind a backslash, and the rest. -/
def afterBackslash? : List Char → Option (Char × List Char)
  | [] => none
  | k :: s =>
    match shortForms.lookup k with
    | some c => some (c, s)
    | none =>
      let (digits, rest) := run (· != '\x7d') (s.drop 1)
      some (Char.ofNat (hexValue digits), rest.drop 1)

/-- The character that stands first in a quoted text, and the rest. -/
def unescape? : List Char → Option (Char × List Char)
  | [] => none
  | c :: s => if c = '\\' then afterBackslash? s else some (c, s)

theorem afterBackslash?_codePoint (c : Char) (r : List Char) :
    afterBackslash? ('u' :: '\x7b' :: Nat.toDigits 16 c.toNat ++ '\x7d' :: r) = some (c, r) := by
  have hlookup : shortForms.lookup 'u' = none := by decide
  have hrun : run (· != '\x7d') (Nat.toDigits 16 c.toNat ++ '\x7d' :: r) =
      (Nat.toDigits 16 c.toNat, '\x7d' :: r) := by
    rw [run_eq_iff]
    refine ⟨rfl, ?_, fun _ h => Option.some.inj h ▸ rfl⟩
    intro d hd
    obtain ⟨digit, hdigit, rfl⟩ := exists_of_mem_toDigits hd
    have hall : ∀ digit < 16, (Nat.digitChar digit != '\x7d') = true := by decide
    exact hall digit hdigit
  simp only [List.cons_append, afterBackslash?, hlookup, List.drop_succ_cons, List.drop_zero, hrun,
    hexValue_toDigits, Char.ofNat_toNat]

/-- The written form of a character gives it back, whatever follows. -/
theorem unescape?_escaped (c : Char) (r : List Char) :
    unescape? (escaped c ++ r) = some (c, r) := by
  rw [escaped]
  split_ifs with h₀ h₁ h₂ h₃ h₄ h₅
  · subst h₀; rfl
  · subst h₁; rfl
  · subst h₂; rfl
  · subst h₃; rfl
  · subst h₄; rfl
  · subst h₅; rfl
  · rw [List.singleton_append, unescape?, if_neg h₅]
  · rw [codePointEscape, List.cons_append, List.cons_append, unescape?, if_pos rfl]
    simpa using afterBackslash?_codePoint c r

theorem flatMap_escaped_injective (h : s.flatMap escaped = t.flatMap escaped) : s = t := by
  induction s generalizing t with
  | nil =>
    cases t with
    | nil => rfl
    | cons d t =>
      have hd := unescape?_escaped d (t.flatMap escaped)
      rw [← List.flatMap_cons, ← h] at hd
      cases hd
  | cons c s ih =>
    have hc := unescape?_escaped c (s.flatMap escaped)
    rw [← List.flatMap_cons, h] at hc
    cases t with
    | nil => cases hc
    | cons d t =>
      rw [List.flatMap_cons, unescape?_escaped d, Option.some.injEq, Prod.mk.injEq] at hc
      rw [hc.1, ih hc.2.symm]

theorem quoted_injective {a b : String} (h : quoted a = quoted b) : a = b := by
  have hlist := String.ofList_injective h
  rw [List.cons_append, List.cons_append, List.cons.injEq] at hlist
  exact String.toList_inj.1 (flatMap_escaped_injective (List.append_cancel_right hlist.2))

/-! ## Control characters -/

theorem isPrintable_eq_false_of_isControl (h : isControl c = true) : isPrintable c = false := by
  have hrange : inRanges unprintables c = true := by
    rw [inRanges_iff]
    simp only [isControl, Bool.or_eq_true, Bool.and_eq_true, decide_eq_true_iff] at h
    rcases h with h | h
    · exact ⟨(0x0000, 0x001F), List.mem_cons_self, Nat.zero_le _, by omega⟩
    · exact ⟨(0x007F, 0x00A0), List.mem_cons_of_mem _ List.mem_cons_self, h.1, by omega⟩
  rw [isPrintable, hrange]
  rfl

theorem isControl_of_mem_codePointEscape (h : d ∈ codePointEscape c) : isControl d = false := by
  simp only [codePointEscape, List.mem_append, List.mem_cons, List.not_mem_nil, or_false] at h
  rcases h with (rfl | rfl | rfl | h) | rfl
  · rfl
  · rfl
  · rfl
  · obtain ⟨digit, hdigit, rfl⟩ := exists_of_mem_toDigits h
    have hall : ∀ digit < 16, isControl (Nat.digitChar digit) = false := by decide
    exact hall digit hdigit
  · rfl

theorem isControl_of_mem_escaped (h : d ∈ escaped c) : isControl d = false := by
  have hshort : ∀ k : Char, isControl k = false → d ∈ ['\\', k] → isControl d = false := by
    intro k hk hd
    rcases List.mem_cons.1 hd with rfl | hd
    · rfl
    · rwa [List.mem_singleton.1 hd]
  rw [escaped] at h
  split_ifs at h with h₀ h₁ h₂ h₃ h₄ h₅ hp
  iterate 6 exact hshort _ rfl h
  · obtain rfl := List.mem_singleton.1 h
    rw [← Bool.not_eq_true]
    intro hd
    rw [isPrintable_eq_false_of_isControl hd] at hp
    cases hp
  · exact isControl_of_mem_codePointEscape h

theorem isControl_of_mem_quoted {a : String} (h : d ∈ (quoted a).toList) : isControl d = false := by
  rw [quoted, String.toList_ofList] at h
  simp only [List.mem_append, List.mem_cons, List.mem_flatMap, List.not_mem_nil, or_false] at h
  rcases h with (rfl | ⟨c, -, h⟩) | rfl
  · rfl
  · exact isControl_of_mem_escaped h
  · rfl

end SourceLens.Text
