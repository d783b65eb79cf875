import SourceLens.Text.Split
import Mathlib.Data.List.DropRight

/-! # Texts cut at a separator

The parts of a text do not hold the separator and lie in the text. What is done to each character
alone can be done before the cut or behind it. -/
namespace SourceLens.Text

variable {separator : Char} {s x part : List Char}

theorem parts_eq_splitOn (separator : Char) (s : List Char) :
    parts separator s = s.splitOn separator := by
  induction s with
  | nil => rfl
  | cons c s ih =>
    rw [List.splitOn_cons_eq_if_modifyHead, ← ih, parts]
    obtain ⟨first, others, h⟩ := List.exists_cons_of_ne_nil (parts_ne_nil separator s)
    by_cases hc : c = separator
    · simp [hc]
    · simp [hc, h]

/-- A text without separators lengthens the first part. -/
theorem splitOn_append_of_notMem (h : separator ∉ x) (s : List Char) :
    (x ++ s).splitOn separator = (s.splitOn separator).modifyHead (x ++ ·) := by
  induction x with
  | nil => exact (congrFun List.modifyHead_id (s.splitOn separator)).symm
  | cons c x ih =>
    obtain ⟨hc, hx⟩ := List.ne_and_not_mem_of_not_mem_cons h
    rw [List.cons_append, List.splitOn_cons_eq_if_modifyHead, ih hx, List.modifyHead_modifyHead,
      if_neg (by simpa using hc.symm)]
    rfl

/-- Characters can be rewritten part by part, as long as the separators stay what they are. -/
theorem splitOn_flatMap {f : Char → List Char} (hs : f separator = [separator])
    (hf : ∀ c, c ≠ separator → separator ∉ f c) (s : List Char) :
    (s.flatMap f).splitOn separator = (s.splitOn separator).map (·.flatMap f) := by
  induction s with
  | nil => rfl
  | cons c s ih =>
    rw [List.flatMap_cons, List.splitOn_cons_eq_if_modifyHead]
    by_cases hc : c = separator
    · subst hc
      rw [hs, List.singleton_append, List.splitOn_cons_eq_if_modifyHead, ih]
      simp
    · rw [splitOn_append_of_notMem (hf c hc), ih, if_neg (by simpa using hc)]
      cases s.splitOn separator <;> simp

/-- Rows that hold the separator only at their ends are the parts of the text that they make up. -/
theorem splitOn_rows {rows : List (List Char)} (h : ∀ row ∈ rows, separator ∉ row)
    (s : List Char) : (rows.flatMap (· ++ [separator]) ++ s).splitOn separator =
      rows ++ s.splitOn separator := by
  induction rows with
  | nil => rfl
  | cons row rows ih =>
    obtain ⟨hrow, hrows⟩ := List.forall_mem_cons.1 h
    rw [List.flatMap_cons, List.append_assoc, List.append_assoc, List.singleton_append,
      List.splitOn_append_cons_self_of_not_mem hrow, ih hrows, List.cons_append]

/-- Such rows are determined by their text. -/
theorem rows_injective {rows rows' : List (List Char)} (h : ∀ row ∈ rows, separator ∉ row)
    (h' : ∀ row ∈ rows', separator ∉ row)
    (heq : rows.flatMap (· ++ [separator]) = rows'.flatMap (· ++ [separator])) : rows = rows' := by
  have hsplit := congrArg (List.splitOn separator) heq
  rw [← List.append_nil (List.flatMap _ rows), ← List.append_nil (List.flatMap _ rows'),
    splitOn_rows h, splitOn_rows h'] at hsplit
  exact List.append_cancel_right hsplit

theorem notMem_of_mem_splitOn (h : part ∈ s.splitOn separator) : separator ∉ part := by
  induction s generalizing part with
  | nil =>
    rw [List.splitOn_nil, List.mem_singleton] at h
    exact h ▸ List.not_mem_nil
  | cons c s ih =>
    rw [List.splitOn_cons_eq_if_modifyHead] at h
    obtain ⟨first, others, hs⟩ := List.exists_cons_of_ne_nil (List.splitOn_ne_nil separator s)
    rw [hs] at h ih
    split at h
    · rcases List.mem_cons.1 h with rfl | h
      · exact List.not_mem_nil
      · exact ih h
    · next hc =>
      rcases List.mem_cons.1 h with rfl | h
      · exact List.not_mem_cons_of_ne_of_not_mem (fun he => hc (beq_iff_eq.2 he.symm))
          (ih List.mem_cons_self)
      · exact ih (List.mem_cons_of_mem first h)

theorem intercalate_cons_eq_append_flatMap (separator : Char) (first : List Char)
    (others : List (List Char)) :
    [separator].intercalate (first :: others) = first ++ others.flatMap (separator :: ·) := by
  induction others generalizing first with
  | nil => simp
  | cons second others ih =>
    rw [List.intercalate_cons_cons, ih, List.flatMap_cons, List.append_assoc]
    rfl

/-- Parts before another one end with the separator, parts behind it start with the separator. -/
theorem intercalate_append_cons (separator : Char) (before after : List (List Char))
    (part : List Char) : [separator].intercalate (before ++ part :: after) =
      before.flatMap (· ++ [separator]) ++ part ++ after.flatMap (separator :: ·) := by
  induction before with
  | nil => exact intercalate_cons_eq_append_flatMap separator part after
  | cons first before ih =>
    obtain ⟨second, others, hs⟩ : ∃ second others, before ++ part :: after = second :: others :=
      List.exists_cons_of_ne_nil (by simp)
    rw [List.cons_append, hs, List.intercalate_cons_cons, ← hs, ih, List.flatMap_cons]
    simp only [List.append_assoc]

theorem isInfix_intercalate {parts : List (List Char)} (h : part ∈ parts) :
    part <:+: [separator].intercalate parts := by
  obtain ⟨before, after, rfl⟩ := List.append_of_mem h
  rw [intercalate_append_cons]
  exact ⟨_, _, rfl⟩

theorem isInfix_of_mem_splitOn (h : part ∈ s.splitOn separator) : part <:+: s := by
  have hpart : part <:+: [separator].intercalate (s.splitOn separator) := isInfix_intercalate h
  rwa [List.intercalate_splitOn] at hpart

theorem splitOn_eq_append_cons_iff {before after : List (List Char)} :
    s.splitOn separator = before ++ part :: after ↔
      s = before.flatMap (· ++ [separator]) ++ part ++ after.flatMap (separator :: ·) ∧
        ∀ x ∈ before ++ part :: after, separator ∉ x := by
  rw [← intercalate_append_cons]
  constructor
  · intro h
    rw [← h]
    exact ⟨(List.intercalate_splitOn separator).symm, fun x hx => notMem_of_mem_splitOn hx⟩
  · rintro ⟨rfl, h⟩
    exact List.splitOn_intercalate separator h (by simp)

theorem flatten_splitOn (separator : Char) (s : List Char) :
    (s.splitOn separator).flatten = s.filter fun c => !(c == separator) := by
  induction s with
  | nil => rfl
  | cons c s ih =>
    obtain ⟨first, others, hs⟩ := List.exists_cons_of_ne_nil (List.splitOn_ne_nil separator s)
    rw [hs] at ih
    rw [List.splitOn_cons_eq_if_modifyHead, hs]
    cases hc : c == separator with
    | true => simpa [hc] using ih
    | false => simpa [hc] using ih

theorem one_lt_length_splitOn_iff : 1 < (s.splitOn separator).length ↔ separator ∈ s := by
  constructor
  · intro h
    by_contra hs
    rw [List.splitOn_eq_singleton hs] at h
    exact lt_irrefl 1 h
  · intro h
    obtain ⟨x, y, rfl⟩ := List.append_of_mem h
    have hx : 0 < (x.splitOn separator).length :=
      List.length_pos_iff.2 (List.splitOn_ne_nil separator x)
    have hy : 0 < (y.splitOn separator).length :=
      List.length_pos_iff.2 (List.splitOn_ne_nil separator y)
    rw [List.splitOn_append_cons_self, List.length_append]
    omega

/-! ## The end of a part -/

theorem filter_dropTrailing (p : Char → Bool) (s : List Char) :
    (dropTrailing p s).filter (!p ·) = s.filter (!p ·) := by
  have hs : dropTrailing p s ++ s.rtakeWhile p = s := List.rdropWhile_append_rtakeWhile
  have htail : (s.rtakeWhile p).filter (!p ·) = [] := by
    rw [List.filter_eq_nil_iff]
    intro c hc
    simp [List.mem_rtakeWhile_imp hc]
  conv_rhs => rw [← hs, List.filter_append, htail, List.append_nil]

/-- Behind a character of the class that is not dropped stands one outside of it. -/
theorem exists_of_mem_dropTrailing {p : Char → Bool} {c : Char}
    (h : c ∈ dropTrailing p s) : ∃ x y, s = x ++ c :: y ∧ (c :: y).dropWhile p ≠ [] := by
  have hs : dropTrailing p s ++ s.rtakeWhile p = s := List.rdropWhile_append_rtakeWhile
  have hlast := List.rdropWhile_last_not p s (List.ne_nil_of_mem h)
  obtain ⟨x, y, hxy⟩ := List.append_of_mem h
  change s.rdropWhile p = x ++ c :: y at hxy
  refine ⟨x, y ++ s.rtakeWhile p, ?_, ?_⟩
  · rw [← List.cons_append, ← List.append_assoc, ← hxy]
    exact hs.symm
  · intro hall
    rw [List.dropWhile_eq_nil_iff] at hall
    apply hlast
    apply hall
    simp only [hxy, List.getLast_append_of_ne_nil _ (List.cons_ne_nil c y)]
    rw [← List.cons_append]
    exact List.mem_append_left _ (List.getLast_mem _)

end SourceLens.Text
