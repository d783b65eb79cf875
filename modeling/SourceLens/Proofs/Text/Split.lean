import SourceLens.Text.Split
import Mathlib.Data.List.TakeWhile

/-! # What decides a split

A split is decided by its first part and by the place where that part ends. Each operation has a
lemma that says when it fails and one that lets the text behind the first part vary. -/
namespace SourceLens.Text

variable {s x body rest mark : List Char}

theorem utf8Length_toList (s : String) : utf8Length s.toList = s.utf8ByteSize := by
  suffices h : ∀ x : List Char, utf8Length x = (String.ofList x).utf8ByteSize by
    rw [h, String.ofList_toList]
  intro x
  induction x with
  | nil => rfl
  | cons c x ih =>
    rw [utf8Length_cons, ih, String.ofList_cons, String.utf8ByteSize_append,
      String.utf8ByteSize_singleton]

theorem eq_append_iff {s t u : String} : s = t ++ u ↔ t.toList ++ u.toList = s.toList := by
  rw [← String.toList_append, String.toList_inj, eq_comm]

theorem utf8Length_mono (h : x <+: s) : utf8Length x ≤ utf8Length s := by
  obtain ⟨rest, rfl⟩ := h
  rw [utf8Length_append]
  exact Nat.le_add_right _ _

/-- A run is a prefix of the class that something else, or nothing, follows. -/
theorem run_eq_iff {p : Char → Bool} :
    run p s = (x, rest) ↔
      x ++ rest = s ∧ (∀ c ∈ x, p c = true) ∧ ∀ c ∈ rest.head?, p c = false := by
  constructor
  · intro h
    obtain ⟨rfl, rfl⟩ := Prod.mk.inj h
    refine ⟨List.takeWhile_append_dropWhile, fun c hc => List.mem_takeWhile_imp hc, ?_⟩
    intro c hc
    have h := List.head?_dropWhile_not p s
    rw [Option.mem_def.1 hc] at h
    exact h
  · rintro ⟨rfl, hx, hr⟩
    have hd : rest.dropWhile p = rest ∧ rest.takeWhile p = [] := by
      cases rest with
      | nil => exact ⟨rfl, rfl⟩
      | cons c rest => simp [hr c rfl]
    rw [run, List.takeWhile_append_of_pos hx, List.dropWhile_append_of_pos hx, hd.1, hd.2,
      List.append_nil]

theorem run_fst_eq_nil_iff {p : Char → Bool} :
    (run p s).1 = [] ↔ ∀ c ∈ s.head?, p c = false := by
  cases s with
  | nil => simp [run]
  | cons c s => cases h : p c <;> simp [run, h]

theorem behind?_eq_none_iff : behind? mark s = none ↔ ¬mark <+: s := by
  rw [Option.eq_none_iff_forall_ne_some]
  constructor
  · rintro h ⟨r, rfl⟩
    exact h r (behind?_eq_some_iff.2 rfl)
  · intro h r hr
    exact h ⟨r, (behind?_eq_some_iff.1 hr).symm⟩

theorem splitThrough?_eq_none_iff : splitThrough? mark s = none ↔ ¬mark <:+: s := by
  induction s with
  | nil => simp [splitThrough?]
  | cons c s ih =>
    rw [List.infix_cons_iff, not_or, ← behind?_eq_none_iff, ← ih, splitThrough?]
    cases behind? mark (c :: s) <;> simp

theorem suffix_of_splitThrough? (h : splitThrough? mark s = some (body, rest)) :
    mark <:+ body := by
  induction s generalizing body with
  | nil =>
    simp only [splitThrough?] at h
    split at h
    · next hm => cases h; exact hm ▸ List.suffix_rfl
    · cases h
  | cons c s ih =>
    simp only [splitThrough?] at h
    split at h
    · cases h; exact List.suffix_rfl
    · obtain ⟨⟨b, r⟩, hb, hr⟩ := Option.map_eq_some_iff.1 h
      cases hr
      exact (ih hb).trans (List.suffix_cons c b)

theorem splitThrough?_self (mark r : List Char) : splitThrough? mark (mark ++ r) = some (mark, r) := by
  have hb : behind? mark (mark ++ r) = some r := behind?_eq_some_iff.2 rfl
  cases hs : mark ++ r with
  | nil =>
    obtain ⟨rfl, rfl⟩ := List.append_eq_nil_iff.1 hs
    rfl
  | cons c s =>
    rw [hs] at hb
    simp only [splitThrough?, hb]

/-- The first occurrence stays the first, whatever follows it. -/
theorem splitThrough?_append (h : splitThrough? mark s = some (body, rest)) (r : List Char) :
    splitThrough? mark (body ++ r) = some (body, r) := by
  induction s generalizing body with
  | nil =>
    simp only [splitThrough?] at h
    split at h
    · next hm => cases h; exact hm ▸ splitThrough?_self [] r
    · cases h
  | cons c s ih =>
    simp only [splitThrough?] at h
    split at h
    · cases h; exact splitThrough?_self mark r
    · next hn =>
      obtain ⟨⟨b, t⟩, hb, hr⟩ := Option.map_eq_some_iff.1 h
      cases hr
      have hm : behind? mark (c :: b ++ r) = none := by
        rw [behind?_eq_none_iff] at hn ⊢
        intro hp
        have hl : mark.length ≤ (c :: b).length :=
          (suffix_of_splitThrough? hb).length_le.trans (Nat.le_succ _)
        have hp : mark <+: c :: b := List.prefix_of_prefix_length_le hp (List.prefix_append _ r) hl
        rw [← append_of_splitThrough? hb] at hn
        exact hn (hp.trans (List.prefix_append (c :: b) t))
      rw [List.cons_append] at hm ⊢
      simp only [splitThrough?, hm, ih hb, Option.map_some]

/-- A mark is found where it stands or before. -/
theorem exists_splitThrough?_append (body mark rest : List Char) :
    ∃ x t, x ++ t = body ++ mark ∧
      splitThrough? mark (body ++ mark ++ rest) = some (x, t ++ rest) := by
  have hfound : splitThrough? mark (body ++ mark) ≠ none := by
    rw [Ne, splitThrough?_eq_none_iff, not_not]
    exact (List.suffix_append body mark).isInfix
  obtain ⟨⟨x, t⟩, hx⟩ := Option.ne_none_iff_exists'.1 hfound
  have hs : x ++ t = body ++ mark := append_of_splitThrough? hx
  refine ⟨x, t, hs, ?_⟩
  rw [← hs, List.append_assoc]
  exact splitThrough?_append hx (t ++ rest)

end SourceLens.Text
