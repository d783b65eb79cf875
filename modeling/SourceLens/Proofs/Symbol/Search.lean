import SourceLens.Proofs.Symbol.Table

/-! # Looking a name up

In a list that ascends, halving the distance finds just the names between the two places. The lists
of a table ascend, so a table has the functions and the variables that it was made of, and which
these are is all that a table knows. -/
namespace SourceLens

variable {names : Array String} {name : String} {low high i j : Nat} {a b : String}

/-- The entries of an ascending list ascend with their places. -/
theorem lt_of_getElem?_eq_some (h : names.toList.Pairwise (· < ·)) (hi : names[i]? = some a)
    (hj : names[j]? = some b) (hij : i < j) : a < b := by
  rw [← Array.getElem?_toList, List.getElem?_eq_some_iff] at hi hj
  obtain ⟨hi, rfl⟩ := hi
  obtain ⟨hj, rfl⟩ := hj
  exact List.pairwise_iff_getElem.1 h i j hi hj hij

/-- The smaller entry stands first. -/
theorem lt_of_getElem?_lt (h : names.toList.Pairwise (· < ·)) (hi : names[i]? = some a)
    (hj : names[j]? = some b) (hab : a < b) : i < j := by
  by_contra hn
  rcases Nat.eq_or_lt_of_le (Nat.le_of_not_lt hn) with rfl | hji
  · rw [hi] at hj
    exact hab.ne (Option.some.inj hj)
  · exact hab.asymm (lt_of_getElem?_eq_some h hj hi hji)

theorem holdsBetween_iff (h : names.toList.Pairwise (· < ·)) (hhigh : high ≤ names.size) :
    holdsBetween names name low high = true ↔ ∃ i, low ≤ i ∧ i < high ∧ names[i]? = some name := by
  fun_induction holdsBetween names name low high with
  | case1 low high hlow hnone =>
    rw [Array.getElem?_eq_none_iff] at hnone
    omega
  | case2 low high hlow found hfound horder =>
    rw [Text.byteOrder_eq_compare, compare_eq_iff_eq] at horder
    subst horder
    refine iff_of_true rfl ⟨(low + high) / 2, by omega, by omega, hfound⟩
  | case3 low high hlow found hfound horder ih =>
    rw [Text.byteOrder_eq_compare, compare_lt_iff_lt] at horder
    rw [ih hhigh]
    constructor
    · rintro ⟨i, hi, hih, hname⟩
      exact ⟨i, by omega, hih, hname⟩
    · rintro ⟨i, hi, hih, hname⟩
      exact ⟨i, lt_of_getElem?_lt h hfound hname horder, hih, hname⟩
  | case4 low high hlow found hfound horder ih =>
    rw [Text.byteOrder_eq_compare, compare_gt_iff_gt] at horder
    rw [ih (by omega)]
    constructor
    · rintro ⟨i, hi, hih, hname⟩
      exact ⟨i, hi, by omega, hname⟩
    · rintro ⟨i, hi, hih, hname⟩
      exact ⟨i, hi, lt_of_getElem?_lt h hname hfound horder, hname⟩
  | case5 low high hlow =>
    refine iff_of_false nofun ?_
    rintro ⟨i, hi, hih, -⟩
    omega

theorem holdsBetween_sortedNames (entries : List String) :
    holdsBetween (sortedNames entries) name 0 (sortedNames entries).size = true ↔
      name ∈ entries := by
  rw [holdsBetween_iff (pairwise_sortedNames entries) (Nat.le_refl _), ← mem_sortedNames,
    Array.mem_iff_getElem?]
  constructor
  · rintro ⟨i, -, -, hi⟩
    exact ⟨i, hi⟩
  · rintro ⟨i, hi⟩
    exact ⟨i, Nat.zero_le i, (Array.getElem?_eq_some_iff.1 hi).1, hi⟩

namespace SymbolTable

variable {functionNames variableNames : List String}

theorem hasFunction_ofNames : (ofNames functionNames variableNames).hasFunction name = true ↔
    name ∈ functionNames :=
  holdsBetween_sortedNames functionNames

theorem hasVariable_ofNames : (ofNames functionNames variableNames).hasVariable name = true ↔
    name ∈ variableNames :=
  holdsBetween_sortedNames variableNames

theorem isEmpty_ofNames : (ofNames functionNames variableNames).isEmpty = true ↔
    functionNames = [] ∧ variableNames = [] := by
  rw [isEmpty, Bool.and_eq_true, ofNames, isEmpty_sortedNames, isEmpty_sortedNames]

theorem ofNames_eq_iff {functionNames' variableNames' : List String} :
    ofNames functionNames variableNames = ofNames functionNames' variableNames' ↔
      (∀ name, name ∈ functionNames ↔ name ∈ functionNames') ∧
        ∀ name, name ∈ variableNames ↔ name ∈ variableNames' := by
  rw [ofNames, ofNames, mk.injEq, sortedNames_eq_iff, sortedNames_eq_iff]

/-- What a table is of the names that it was made of, in whatever order and however often they were
given. Its lists hold the names, each once, by ascending code points, although it is bytes that are
compared; tables of the same names, and of no others, are equal; a table without names is empty; and
looking a name up finds it just if it was given. -/
theorem ofNames_canonical (functionNames variableNames : List String) :
    let table := ofNames functionNames variableNames
    IsListOf table.functionNames functionNames ∧ IsListOf table.variableNames variableNames ∧
      (∀ functionNames' variableNames', table = ofNames functionNames' variableNames' ↔
        (∀ name, name ∈ functionNames ↔ name ∈ functionNames') ∧
          ∀ name, name ∈ variableNames ↔ name ∈ variableNames') ∧
      (table.isEmpty = true ↔ functionNames = [] ∧ variableNames = []) ∧
      (∀ name, table.hasFunction name = true ↔ name ∈ functionNames) ∧
      ∀ name, table.hasVariable name = true ↔ name ∈ variableNames := by
  refine ⟨isListOf_sortedNames functionNames, isListOf_sortedNames variableNames, ?_,
    isEmpty_ofNames, ?_, ?_⟩
  · exact fun functionNames' variableNames' => ofNames_eq_iff
  · exact fun name => hasFunction_ofNames
  · exact fun name => hasVariable_ofNames

end SymbolTable

end SourceLens
