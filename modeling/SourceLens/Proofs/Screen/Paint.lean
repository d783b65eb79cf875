import SourceLens.Screen
import SourceLens.Proofs.Screen.Shift
import SourceLens.Proofs.Screen.Within
import Mathlib.Data.List.Basic

/-! # Cells of a painted screen

A cell shows the marks that a drawing makes on it, in their order, and nothing else. -/
namespace SourceLens

namespace Drawing

/-- The marks of a drawing on the cell in a column and a row. -/
def marksAt (d : Drawing) (x y : Nat) : List Mark :=
  d.filterMap fun t => if t.x = x ∧ t.y = y then some t.mark else none

variable {d : Drawing} {area : Area} {x y : Nat}

theorem marksAt_cons (t : Stroke) (d : Drawing) (x y : Nat) : marksAt (t :: d) x y =
    if t.x = x ∧ t.y = y then t.mark :: d.marksAt x y else d.marksAt x y := by
  rw [marksAt, List.filterMap_cons]
  split <;> simp_all [marksAt]

theorem marksAt_flatMap {α : Type} (l : List α) (f : α → Drawing) (x y : Nat) :
    marksAt (l.flatMap f) x y = l.flatMap fun a => (f a).marksAt x y :=
  List.filterMap_flatMap

theorem marksAt_shift (d : Drawing) (x y dx dy : Nat) :
    (d.shift dx dy).marksAt (x + dx) (y + dy) = d.marksAt x y := by
  simp [marksAt, shift, List.filterMap_map, Stroke.shift]

theorem mem_marksAt {m : Mark} : m ∈ d.marksAt x y ↔ ⟨x, y, m⟩ ∈ d := by
  simp only [marksAt, List.mem_filterMap]
  constructor
  · rintro ⟨t, ht, h⟩
    split at h
    · next hxy => cases h; exact hxy.1 ▸ hxy.2 ▸ ht
    · cases h
  · intro h
    exact ⟨_, h, by simp⟩

theorem Within.marksAt_eq_nil (h : d.Within area) (hxy : ¬area.Holds x y) :
    d.marksAt x y = [] :=
  List.eq_nil_iff_forall_not_mem.2 fun _ hm => hxy (h _ (mem_marksAt.1 hm))

end Drawing

/-- The cell after marks one after the other. -/
def Cell.applyAll (cell : Cell) (marks : List Mark) : Cell :=
  marks.foldl (fun cell m => m.apply cell) cell

theorem Cell.columns_default : Cell.columns {} < 2 := by
  decide +kernel

theorem Cell.columns_applyAll_lt {cell : Cell} {marks : List Mark} (hc : cell.columns < 2)
    (h : ∀ m ∈ marks, m.IsNarrow) : (cell.applyAll marks).columns < 2 := by
  induction marks generalizing cell with
  | nil => exact hc
  | cons m marks ih =>
    rw [List.forall_mem_cons] at h
    refine ih ?_ h.2
    cases m with
    | glyph symbol style => exact h.1
    | join symbol => exact h.1.elim
    | tint style => exact hc
    | reset => exact columns_default

namespace Screen

variable {s s' : Screen} {d : Drawing} {x y width height : Nat}

theorem cell?_eq_none (h : ¬(x < s.width ∧ y < s.height)) : s.cell? x y = none := by
  rw [cell?]
  split
  · next hx =>
    have hy : s.height ≤ y := Nat.le_of_not_lt fun hy => h ⟨hx, hy⟩
    have hle : s.width * s.height ≤ y * s.width := by
      rw [Nat.mul_comm]
      exact Nat.mul_le_mul_right _ hy
    apply Array.getElem?_eq_none
    rw [s.size_cells]
    omega
  · rfl

theorem index_lt (hx : x < width) (hy : y < height) : y * width + x < width * height := by
  have h : (y + 1) * width ≤ height * width := Nat.mul_le_mul_right width hy
  rw [Nat.succ_mul, Nat.mul_comm height] at h
  omega

theorem isSome_cell? (hx : x < s.width) (hy : y < s.height) : (s.cell? x y).isSome := by
  have h : y * s.width + x < s.cells.size := by
    rw [s.size_cells]
    exact index_lt hx hy
  rw [cell?, if_pos hx, Array.getElem?_eq_getElem h]
  rfl

theorem ext_cell? (hw : s.width = s'.width) (hh : s.height = s'.height)
    (h : ∀ x y, x < s.width → y < s.height → s.cell? x y = s'.cell? x y) : s = s' := by
  obtain ⟨w, k, cells, hsize⟩ := s
  obtain ⟨w', k', cells', hsize'⟩ := s'
  obtain rfl : w = w' := hw
  obtain rfl : k = k' := hh
  have hcells : cells = cells' := by
    apply Array.ext_getElem?
    intro i
    by_cases hi : i < w * k
    · have hw : 0 < w := Nat.pos_of_mul_pos_right (Nat.zero_lt_of_lt hi)
      have hx : i % w < w := Nat.mod_lt i hw
      have hcell := h (i % w) (i / w) hx (Nat.div_lt_of_lt_mul hi)
      simpa only [cell?, if_pos hx, Nat.div_add_mod'] using hcell
    · rw [Array.getElem?_eq_none (by omega), Array.getElem?_eq_none (by omega)]
  subst hcells
  rfl

@[simp] theorem width_blank (width height : Nat) : (blank width height).width = width := rfl

@[simp] theorem height_blank (width height : Nat) : (blank width height).height = height := rfl

theorem cell?_blank (width height x y : Nat) :
    (blank width height).cell? x y = if x < width ∧ y < height then some {} else none := by
  split
  · next h =>
    rw [cell?, if_pos (show x < (blank width height).width from h.1)]
    exact (Array.getElem?_replicate ..).trans (if_pos (index_lt h.1 h.2))
  · next h => exact cell?_eq_none h

/-! ## Painting -/

@[simp] theorem width_stroke (s : Screen) (t : Stroke) : (s.stroke t).width = s.width := by
  rw [stroke]
  split <;> rfl

@[simp] theorem height_stroke (s : Screen) (t : Stroke) : (s.stroke t).height = s.height := by
  rw [stroke]
  split <;> rfl

@[simp] theorem width_paint (s : Screen) (d : Drawing) : (s.paint d).width = s.width := by
  induction d generalizing s with
  | nil => rfl
  | cons t d ih => exact (ih (s.stroke t)).trans (width_stroke s t)

@[simp] theorem height_paint (s : Screen) (d : Drawing) : (s.paint d).height = s.height := by
  induction d generalizing s with
  | nil => rfl
  | cons t d ih => exact (ih (s.stroke t)).trans (height_stroke s t)

theorem index_inj {x' y' : Nat} (hx : x < width) (hx' : x' < width) :
    y * width + x = y' * width + x' ↔ x = x' ∧ y = y' := by
  constructor
  · intro h
    have hmod := congrArg (· % width) h
    have hdiv := congrArg (· / width) h
    have hpos : 0 < width := Nat.zero_lt_of_lt hx
    simp only [Nat.mul_add_mod_self_right, Nat.mod_eq_of_lt hx, Nat.mod_eq_of_lt hx'] at hmod
    simp only [Nat.mul_comm _ width, Nat.mul_add_div hpos, Nat.div_eq_of_lt hx,
      Nat.div_eq_of_lt hx', Nat.add_zero] at hdiv
    exact ⟨hmod, hdiv⟩
  · rintro ⟨rfl, rfl⟩
    rfl

theorem cell?_stroke (s : Screen) (t : Stroke) (x y : Nat) : (s.stroke t).cell? x y =
    if t.x = x ∧ t.y = y then (s.cell? x y).map t.mark.apply else s.cell? x y := by
  by_cases hin : t.x < s.width ∧ t.y < s.height
  · by_cases hx : x < s.width
    · simp only [stroke, if_pos hin, cell?, if_pos hx, Array.getElem?_modify,
        index_inj hin.1 hx]
    · have hne : ¬(t.x = x ∧ t.y = y) := fun h => hx (h.1 ▸ hin.1)
      simp only [stroke, if_pos hin, cell?, if_neg hx, if_neg hne]
  · rw [stroke, if_neg hin]
    split
    · next h =>
      obtain ⟨rfl, rfl⟩ := h
      rw [cell?_eq_none hin]
      rfl
    · rfl

theorem cell?_paint (s : Screen) (d : Drawing) (x y : Nat) :
    (s.paint d).cell? x y = (s.cell? x y).map fun cell => cell.applyAll (d.marksAt x y) := by
  induction d generalizing s with
  | nil => exact Option.map_id'.symm
  | cons t d ih =>
    rw [paint, List.foldl_cons, ← paint, ih, cell?_stroke, Drawing.marksAt_cons]
    split
    · rw [Option.map_map]
      rfl
    · rfl

theorem cell?_paint_blank (hx : x < width) (hy : y < height) (d : Drawing) :
    ((blank width height).paint d).cell? x y = some (Cell.applyAll {} (d.marksAt x y)) := by
  rw [cell?_paint, cell?_blank, if_pos ⟨hx, hy⟩, Option.map_some]

/-! ## What is seen -/

/-- The cell in a column and a row as it is seen. -/
def seen? (s : Screen) (x y : Nat) : Option Cell := s.rows[y]?.bind fun row => row[x]?

theorem getElem?_visible_zero (hidden : Bool) (row : List Cell) :
    (visible hidden row)[0]? = row[0]?.map fun cell => if hidden then ({} : Cell) else cell := by
  cases row <;> rfl

theorem getElem?_visible_succ (hidden : Bool) (row : List Cell) (i : Nat) :
    (visible hidden row)[i + 1]? = row[i + 1]?.map fun cell =>
      if row[i]?.any (2 ≤ ·.columns) then {} else cell := by
  induction row generalizing hidden i with
  | nil => rfl
  | cons cell row ih =>
    cases i with
    | zero => exact getElem?_visible_zero (2 ≤ cell.columns) row
    | succ i => exact ih (2 ≤ cell.columns) i

theorem getElem?_row (hy : y < s.height) (x : Nat) : (s.row y)[x]? = s.cell? x y := by
  have hmap : s.row y = (List.range s.width).map fun x => (s.cell? x y).getD {} := by
    rw [row, List.filterMap_eq_map_iff_forall_eq_some]
    intro x hx
    obtain ⟨cell, hcell⟩ := Option.isSome_iff_exists.1 (isSome_cell? (List.mem_range.1 hx) hy)
    rw [hcell, Option.getD_some]
  rw [hmap, List.getElem?_map]
  by_cases hx : x < s.width
  · obtain ⟨cell, hcell⟩ := Option.isSome_iff_exists.1 (isSome_cell? hx hy)
    simp [List.getElem?_range hx, hcell]
  · rw [cell?_eq_none (fun h => hx h.1), List.getElem?_eq_none (by simpa using hx)]
    rfl

theorem seen?_eq (hy : y < s.height) (x : Nat) : s.seen? x y = (visible false (s.row y))[x]? := by
  simp [seen?, rows, List.getElem?_range hy]

theorem seen?_zero (hy : y < s.height) : s.seen? 0 y = s.cell? 0 y := by
  simp [seen?_eq hy, getElem?_visible_zero, getElem?_row hy]

/-- A cell is hidden by a wide symbol on its left. -/
theorem seen?_succ (hy : y < s.height) (x : Nat) : s.seen? (x + 1) y =
    (s.cell? (x + 1) y).map fun cell =>
      if (s.cell? x y).any (2 ≤ ·.columns) then {} else cell := by
  rw [seen?_eq hy, getElem?_visible_succ, getElem?_row hy, getElem?_row hy]

end Screen

end SourceLens
