import SourceLens.Proofs.Text.ByteOrder
import SourceLens.Symbol.Table
import Mathlib.Data.List.Sort

/-! # The lists of a symbol table

Whatever the names are that a table is made of, its lists hold just these, each once, and ascend by
code points. -/
namespace SourceLens

variable {name : String} {names : List String}

theorem mem_dropRepeats : name ∈ dropRepeats names ↔ name ∈ names := by
  induction names using dropRepeats.induct with
  | case1 => rfl
  | case2 a => rfl
  | case3 a names ih =>
    rw [dropRepeats, if_pos rfl, ih]
    simp
  | case4 a b names h ih =>
    rw [dropRepeats, if_neg h, List.mem_cons, ih]
    exact List.mem_cons.symm

theorem pairwise_dropRepeats (h : names.Pairwise (· ≤ ·)) :
    (dropRepeats names).Pairwise (· < ·) := by
  induction names using dropRepeats.induct with
  | case1 => exact .nil
  | case2 a => exact List.pairwise_singleton _ a
  | case3 a names ih =>
    rw [dropRepeats, if_pos rfl]
    exact ih h.of_cons
  | case4 a b names hne ih =>
    rw [dropRepeats, if_neg hne]
    obtain ⟨ha, hnames⟩ := List.pairwise_cons.1 h
    refine List.pairwise_cons.2 ⟨?_, ih hnames⟩
    intro c hc
    have hab : a < b := lt_of_le_of_ne (ha b List.mem_cons_self) hne
    rcases List.mem_cons.1 (mem_dropRepeats.1 hc) with rfl | hc
    · exact hab
    · exact hab.trans_le ((List.pairwise_cons.1 hnames).1 c hc)

theorem length_dropRepeats_le (names : List String) :
    (dropRepeats names).length ≤ names.length := by
  induction names using dropRepeats.induct with
  | case1 => exact Nat.le_refl 0
  | case2 a => exact Nat.le_refl 1
  | case3 a names ih =>
    rw [dropRepeats, if_pos rfl]
    simp only [List.length_cons] at ih ⊢
    omega
  | case4 a b names h ih =>
    rw [dropRepeats, if_neg h]
    simp only [List.length_cons] at ih ⊢
    omega

theorem mem_sortedNames : name ∈ sortedNames names ↔ name ∈ names := by
  rw [sortedNames, List.mem_toArray, mem_dropRepeats, List.mem_mergeSort]

theorem pairwise_sortedNames (names : List String) :
    (sortedNames names).toList.Pairwise (· < ·) := by
  apply pairwise_dropRepeats
  have h : (names.mergeSort Text.atMost).Pairwise fun a b => Text.atMost a b = true := by
    apply List.pairwise_mergeSort
    · intro a b c hab hbc
      rw [Text.atMost_iff] at hab hbc ⊢
      exact hab.trans hbc
    · intro a b
      rw [Bool.or_eq_true, Text.atMost_iff, Text.atMost_iff]
      exact le_total a b
  exact h.imp Text.atMost_iff.1

/-- Which names there are decides the list: neither their order nor repeats matter. -/
theorem sortedNames_congr {names names' : List String} (h : ∀ name, name ∈ names ↔ name ∈ names') :
    sortedNames names = sortedNames names' := by
  apply Array.toList_inj.1
  apply (pairwise_sortedNames names).sortedLT.eq_of_mem_iff (pairwise_sortedNames names').sortedLT
  intro name
  rw [Array.mem_toList_iff, Array.mem_toList_iff, mem_sortedNames, mem_sortedNames, h]

theorem sortedNames_eq_iff {names names' : List String} :
    sortedNames names = sortedNames names' ↔ ∀ name, name ∈ names ↔ name ∈ names' := by
  refine ⟨fun h name => ?_, sortedNames_congr⟩
  rw [← mem_sortedNames, h, mem_sortedNames]

theorem isEmpty_sortedNames : (sortedNames names).isEmpty = true ↔ names = [] := by
  rw [Array.isEmpty_iff, ← Array.toList_eq_nil_iff, List.eq_nil_iff_forall_not_mem,
    List.eq_nil_iff_forall_not_mem]
  simp only [Array.mem_toList_iff, mem_sortedNames]

/-- A list holds just the given names, each once, and ascends by code points. -/
structure IsListOf (list : Array String) (names : List String) : Prop where
  mem_iff : ∀ name, name ∈ list ↔ name ∈ names
  nodup : list.toList.Nodup
  ascends : (list.toList.map Text.codePoints).Pairwise (· < ·)

theorem isListOf_sortedNames (names : List String) : IsListOf (sortedNames names) names := by
  have h := pairwise_sortedNames names
  refine ⟨fun name => mem_sortedNames, h.imp ne_of_lt, ?_⟩
  exact List.pairwise_map.2 (h.imp Text.codePoints_lt_iff.2)

theorem size_sortedNames_le (names : List String) : (sortedNames names).size ≤ names.length := by
  calc (sortedNames names).size
      ≤ (names.mergeSort Text.atMost).length := length_dropRepeats_le _
    _ = names.length := List.length_mergeSort names

end SourceLens
