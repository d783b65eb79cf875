import SourceLens.Proofs.Lexeme.Pattern
import SourceLens.Proofs.Text.Ascii

/-! # Where a match ends

A match takes whole characters off the start of a text, so its length in bytes never points into
the middle of a character or behind the end. Numbers, operators and words are made of ASCII
characters, so their lengths can be counted on bytes alone. -/
namespace SourceLens.Pattern

open Text

variable {pattern : Pattern} {source : String} {n : ℕ}

/-- The length of a match counts the bytes of the text that is cut off. -/
theorem matchLength?_eq_some_iff_cut :
    pattern.matchLength? source = some n ↔
      ∃ text rest : String, pattern.split? source.toList = some (text.toList, rest.toList) ∧
        text.utf8ByteSize = n := by
  rw [matchLength?_eq_some_iff]
  constructor
  · rintro ⟨x, rest, h, hn⟩
    refine ⟨String.ofList x, String.ofList rest, ?_, ?_⟩
    · rwa [String.toList_ofList, String.toList_ofList]
    · rwa [← utf8Length_toList, String.toList_ofList]
  · rintro ⟨text, rest, h, hn⟩
    exact ⟨text.toList, rest.toList, h, by rwa [utf8Length_toList]⟩

theorem exists_eq_append_of_matchLength? (h : pattern.matchLength? source = some n) :
    ∃ text rest, source = text ++ rest ∧ text.utf8ByteSize = n := by
  obtain ⟨text, rest, hs, hn⟩ := matchLength?_eq_some_iff_cut.1 h
  exact ⟨text, rest, eq_append_iff.2 (append_of_split? hs), hn⟩

/-! ## Lengths counted on bytes -/

theorem isAscii_isWordChar : IsAscii isWordChar := fun _ h =>
  Nat.lt_of_le_of_lt (isVisible_of_isWordChar h).2 (by decide)

theorem isAscii_isDigit : IsAscii Char.isDigit := fun c h =>
  isAscii_isWordChar c (isWordChar_of_isDigit h)

theorem isAscii_isWordStart : IsAscii isWordStart := fun c h =>
  isAscii_isWordChar c (isWordChar_of_isWordStart h)

/-- Whether the character is an operator by itself. -/
def isSingleOperator (c : Char) : Bool := decide (c ∈ singleOperators.toList)

theorem isAscii_isSingleOperator : IsAscii isSingleOperator := by
  intro c h
  exact Nat.lt_of_le_of_lt (of_mem_singleOperators (of_decide_eq_true h)).1.2 (by decide)

/-- No byte of a word character comes first. -/
def boundaryOnBytes (bytes : List UInt8) : Bool := !bytes.head?.any (onByte isWordChar)

/-- The number of bytes of a point and the digits behind it, before a word boundary. -/
def fractionOnBytes? (bytes : List UInt8) : Option ℕ :=
  let digits := bytes.tail.takeWhile (onByte Char.isDigit)
  if bytes.head?.any (onByte (· == '.')) ∧ digits ≠ [] ∧
      boundaryOnBytes (bytes.tail.dropWhile (onByte Char.isDigit)) then some (1 + digits.length)
  else none

/-- The number of bytes of digits and a fraction, or else of digits before a word boundary. -/
def numberOnBytes? (bytes : List UInt8) : Option ℕ :=
  let digits := bytes.takeWhile (onByte Char.isDigit)
  let rest := bytes.dropWhile (onByte Char.isDigit)
  if digits = [] then none
  else
    match fractionOnBytes? rest with
    | some fraction => some (digits.length + fraction)
    | none => if boundaryOnBytes rest then some digits.length else none

/-- Two bytes for a double operator, one for a single one. -/
def operatorOnBytes? (bytes : List UInt8) : Option ℕ :=
  if doubleOperators.any fun op => (utf8 op).isPrefixOf bytes then some 2
  else if bytes.head?.any (onByte isSingleOperator) then some 1
  else none

/-- One byte for the word start and one for each word character behind it. -/
def wordOnBytes? (bytes : List UInt8) : Option ℕ :=
  if bytes.head?.any (onByte isWordStart) then
    some (1 + (bytes.tail.takeWhile (onByte isWordChar)).length)
  else none

/-- The scan of bytes that measures a pattern of ASCII characters. -/
def byteScan? : Pattern → Option (List UInt8 → Option ℕ)
  | number => some numberOnBytes?
  | operator => some operatorOnBytes?
  | identifier => some wordOnBytes?
  | _ => none

theorem boundaryOnBytes_encode (s : List Char) :
    boundaryOnBytes (encode s) = atWordBoundary s := by
  rw [boundaryOnBytes, any_head?_encode isAscii_isWordChar]
  cases s <;> rfl

theorem isAscii_beq {c : Char} (h : c.toNat < 128) : IsAscii (· == c) := by
  intro d hd
  rwa [beq_iff_eq.1 hd]

theorem fractionOnBytes?_encode (s : List Char) :
    fractionOnBytes? (encode s) = (splitFraction? s).map fun (x, _) => utf8Length x := by
  have hpoint : '.'.toNat < 128 := by decide
  simp only [fractionOnBytes?, any_head?_encode (isAscii_beq hpoint)]
  cases s with
  | nil => rfl
  | cons c s =>
    by_cases hc : c = '.'
    · subst hc
      simp only [List.head?_cons, Option.any_some, beq_self_eq_true, true_and,
        tail_encode_cons hpoint, takeWhile_encode isAscii_isDigit,
        dropWhile_encode isAscii_isDigit, boundaryOnBytes_encode, ne_eq, encode_eq_nil_iff,
        splitFraction?, length_encode]
      split <;> rfl
    · have hnone : splitFraction? (c :: s) = none :=
        splitFraction?_eq_none_iff.2 fun t h => absurd (List.cons.inj h).1 hc
      rw [hnone]
      simp [hc]

theorem numberOnBytes?_encode (s : List Char) :
    numberOnBytes? (encode s) = (splitNumber? s).map fun (x, _) => utf8Length x := by
  simp only [numberOnBytes?, takeWhile_encode isAscii_isDigit, dropWhile_encode isAscii_isDigit,
    fractionOnBytes?_encode, boundaryOnBytes_encode, encode_eq_nil_iff, splitNumber?, length_encode]
  split
  · rfl
  · cases splitFraction? (run Char.isDigit s).2 with
    | some split => simp
    | none =>
      simp only [Option.map_none]
      split <;> rfl

theorem operatorOnBytes?_encode (s : List Char) :
    operatorOnBytes? (encode s) = (splitOperator? s).map fun (x, _) => utf8Length x := by
  have hdouble : ((doubleOperators.any fun op => (utf8 op).isPrefixOf (encode s)) = true) ↔
      splitDouble? s ≠ none := by
    rw [← Option.isSome_iff_ne_none, splitDouble?, List.findSome?_isSome_iff, List.any_eq_true]
    simp only [List.isPrefixOf_iff_prefix, utf8_prefix_encode_iff, Option.isSome_map,
      Option.isSome_iff_ne_none, Ne, behind?_eq_none_iff, not_not]
  rw [splitOperator?_eq_or, operatorOnBytes?]
  cases hd : splitDouble? s with
  | some split =>
    rw [if_pos (hdouble.2 (hd ▸ Option.some_ne_none split))]
    obtain ⟨x, rest⟩ := split
    have hlength : doubleOperators.all fun op => utf8Length op.toList = 2 := by decide
    have hx := List.all_eq_true.1 hlength _ (splitDouble?_eq_some_iff.1 hd).2
    rw [String.toList_ofList, decide_eq_true_iff] at hx
    simp [hx]
  | none =>
    rw [if_neg (mt hdouble.1 (not_not.2 hd)), any_head?_encode isAscii_isSingleOperator]
    cases s with
    | nil => rfl
    | cons c s =>
      by_cases hc : c ∈ singleOperators.toList
      · have hsize := utf8Size_of_lt (isAscii_isSingleOperator c (decide_eq_true hc))
        simp [splitSingle?, isSingleOperator, hc, hsize]
      · simp [splitSingle?, isSingleOperator, hc]

theorem wordOnBytes?_encode (s : List Char) :
    wordOnBytes? (encode s) = (splitIdentifier? s).map fun (x, _) => utf8Length x := by
  rw [wordOnBytes?, any_head?_encode isAscii_isWordStart]
  cases s with
  | nil => rfl
  | cons c s =>
    by_cases hc : isWordStart c = true
    · have hlt := isAscii_isWordStart c hc
      simp [splitIdentifier?, hc, tail_encode_cons hlt, takeWhile_encode isAscii_isWordChar,
        utf8Size_of_lt hlt]
    · simp [splitIdentifier?, hc]

theorem byteScan?_utf8 {scan : List UInt8 → Option ℕ} (h : pattern.byteScan? = some scan) :
    scan (utf8 source) = pattern.matchLength? source := by
  cases pattern <;> cases h
  · exact numberOnBytes?_encode source.toList
  · exact operatorOnBytes?_encode source.toList
  · exact wordOnBytes?_encode source.toList

/-- A match ends at the border of two characters, or at the end: its length is that of a number of
characters at the start of the source. A scan of the bytes, where there is one, counts just this
length. -/
theorem matchLength?_ends_character (pattern : Pattern) (source : String) :
    (∀ n, pattern.matchLength? source = some n →
      n ≤ source.utf8ByteSize ∧ (⟨n⟩ : String.Pos.Raw).IsValid source ∧
        ∃ k ≤ source.length, utf8Length (source.toList.take k) = n) ∧
      ∀ scan ∈ pattern.byteScan?, scan (utf8 source) = pattern.matchLength? source := by
  refine ⟨fun n h => ?_, fun scan hscan => byteScan?_utf8 hscan⟩
  obtain ⟨text, rest, rfl, rfl⟩ := exists_eq_append_of_matchLength? h
  refine ⟨?_, ?_, text.length, ?_, ?_⟩
  · rw [String.utf8ByteSize_append]
    exact Nat.le_add_right _ _
  · rw [String.Pos.Raw.isValid_iff_exists_append]
    exact ⟨text, rest, rfl, rfl⟩
  · rw [String.length_append]
    exact Nat.le_add_right _ _
  · rw [String.toList_append, ← String.length_toList, List.take_left, utf8Length_toList]

theorem matchLength?_ends_character_not_ascii :
    let comment := blockComment "«\n" "»"
    let source := "«\né» »"
    comment.matchLength? source = some 7 ∧
      (7 ≤ source.utf8ByteSize ∧ (⟨7⟩ : String.Pos.Raw).IsValid source ∧
        ∃ k ≤ source.length, utf8Length (source.toList.take k) = 7) ∧
      numberOnBytes? ∈ number.byteScan? ∧
      numberOnBytes? (utf8 "1.5é") = number.matchLength? "1.5é" := by
  intro comment source
  have hlength : comment.matchLength? source = some 7 := by decide
  have hscan : numberOnBytes? ∈ number.byteScan? := rfl
  exact ⟨hlength, (matchLength?_ends_character comment source).1 7 hlength, hscan,
    (matchLength?_ends_character number "1.5é").2 numberOnBytes? hscan⟩

end SourceLens.Pattern
