import SourceLens.Pane.Legend
import SourceLens.Pane.NameLists
import SourceLens.Pane.SourceText
import SourceLens.Pane.StatusBar
import SourceLens.Pane.TokenTable
import SourceLens.Proofs.Screen.Shift
import SourceLens.Proofs.Screen.Within

/-! # The panes keep to their areas

Every pane moves with its area and stays in it; a framed one has its border in the last column. -/
namespace SourceLens.Pane

open Drawing

variable (area : Area) (style : Style) (focused : Bool) (y offset dx dy : Nat)

namespace SourceText

variable (analysis : Analysis) (title : String)

theorem numberedPage_shift : numberedPage analysis (area.shift dx dy) offset =
    numberedPage analysis area offset := rfl

theorem draw_shift : draw analysis title focused offset (area.shift dx dy) =
    (draw analysis title focused offset area).shift dx dy := by
  simp only [draw, numberedPage_shift, placeholder_shift, frame_shift, Area.inner_shift,
    paragraph_shift]
  split
  · rfl
  · exact (shift_append ..).symm

theorem bordered_draw : (draw analysis title focused offset area).Bordered area := by
  simp only [draw]
  split
  · exact bordered_placeholder _ _ _ _ _
  · exact bordered_append.2
      ⟨bordered_frame _ _ _, (within_paragraph area.inner .left _).bordered_of_inner⟩

end SourceText

namespace Legend

variable (language : Language)

theorem draw_shift : draw language (area.shift dx dy) = (draw language area).shift dx dy := by
  simp only [draw, frame_shift, Area.inner_shift, paragraph_shift, shift_append]

theorem bordered_draw : (draw language area).Bordered area :=
  bordered_append.2 ⟨bordered_frame _ _ _, (within_paragraph area.inner .left _).bordered_of_inner⟩

end Legend

namespace NameLists

theorem nameRows_shift (rows : Nat) (names : List String) :
    nameRows (area.shift dx dy) style (y + dy) rows names =
      (nameRows area style y rows names).shift dx dy := by
  induction names generalizing y rows with
  | nil => cases rows <;> rfl
  | cons name names ih =>
    cases rows with
    | zero => rfl
    | succ rows =>
      have hrest := ih (y + 1) rows
      rw [Nat.add_right_comm] at hrest
      simp only [nameRows, Area.shift_left, Area.shift_width, fill_mk_shift, lettering_shift, hrest,
        shift_append]

theorem within_nameRows {y rows : Nat} (htop : area.top ≤ y) (hbottom : y + rows ≤ area.bottom)
    (names : List String) : (nameRows area style y rows names).Within area := by
  induction names generalizing y rows with
  | nil => cases rows <;> exact within_nil _
  | cons name names ih =>
    cases rows with
    | zero => exact within_nil _
    | succ rows =>
      have hrow : ∀ a b, (⟨area.left, y, area.width, 1⟩ : Area).Holds a b → area.Holds a b :=
        fun a b h => h.of_row htop (by omega)
      simp only [nameRows, within_append]
      exact ⟨⟨(within_fill _ style).mono hrow, (within_lettering _ _ _ _).mono hrow⟩,
        ih (by omega) (by omega)⟩

variable (title plural : String) (names : List String)

theorem list_shift : list title plural names style focused offset (area.shift dx dy) =
    (list title plural names style focused offset area).shift dx dy := by
  have hrows := nameRows_shift area.inner style area.inner.top dx dy area.inner.height
    (page offset (visibleHeight area) names)
  have hheight : visibleHeight (area.shift dx dy) = visibleHeight area := rfl
  simp only [list, placeholder_shift, frame_shift, Area.inner_shift, Area.shift_top,
    Area.shift_height, hheight, hrows]
  split
  · rfl
  · exact (shift_append ..).symm

theorem bordered_list : (list title plural names style focused offset area).Bordered area := by
  simp only [list]
  split
  · exact bordered_placeholder _ _ _ _ _
  · exact bordered_append.2 ⟨bordered_frame _ _ _,
      (within_nameRows area.inner style (Nat.le_refl _) (Nat.le_refl _) _).bordered_of_inner⟩

variable (table : SymbolTable)

theorem draw_shift : draw table focused offset (area.shift dx dy) =
    (draw table focused offset area).shift dx dy := by
  have hsettle : settle table (area.shift dx dy) offset = settle table area offset := rfl
  simp only [draw, hsettle, Area.splitColumns_shift, list_shift, shift_append]

theorem bordered_draw : (draw table focused offset area).Bordered area := by
  have hright := Area.right_splitColumns (a := area) (show 50 ≤ 99 by decide)
  simp only [draw, bordered_append]
  constructor
  · exact (bordered_list _ _ _ _ _ _ _).mono (fun _ _ => .of_splitColumns_fst (by decide)) hright.1
  · exact (bordered_list _ _ _ _ _ _ _).mono (fun _ _ => .of_splitColumns_snd (by decide))
      (Nat.le_of_eq hright.2)

end NameLists

namespace TokenTable

variable (label value : Span) (tokens : List Token)

theorem row_shift : row (area.shift dx dy) (y + dy) label value =
    (row area y label value).shift dx dy := by
  have hwidth : labelWidth (area.shift dx dy) = labelWidth area := rfl
  simp only [row, hwidth, Area.shift_left, Area.shift_width, Nat.add_right_comm area.left dx,
    Nat.add_right_comm (area.left + labelWidth area) dx, fill_mk_shift, lettering_shift,
    shift_append]

theorem within_row : (row area y label value).Within ⟨area.left, y, area.width, 1⟩ := by
  have hwidth : labelWidth area ≤ area.width := Nat.le_trans (Nat.min_le_right ..) (Nat.sub_le ..)
  have hlabel : ∀ a b, (⟨area.left, y, labelWidth area, 1⟩ : Area).Holds a b →
      (⟨area.left, y, area.width, 1⟩ : Area).Holds a b :=
    fun _ _ h => h.of_segment (Nat.le_refl _) (by omega)
  have hvalue : ∀ a b, (⟨area.left + labelWidth area + 1, y, area.width - labelWidth area - 1, 1⟩ :
      Area).Holds a b → (⟨area.left, y, area.width, 1⟩ : Area).Holds a b :=
    fun _ _ h => h.of_segment (by omega) (by omega)
  simp only [row, within_append]
  exact ⟨⟨⟨(within_fill _ _).mono hlabel, (within_lettering _ _ _ _).mono hlabel⟩,
    (within_fill _ _).mono hvalue⟩, (within_lettering _ _ _ _).mono hvalue⟩

theorem tokenRows_shift (rows : Nat) : tokenRows (area.shift dx dy) (y + dy) rows tokens =
    (tokenRows area y rows tokens).shift dx dy := by
  induction tokens generalizing y rows with
  | nil => cases rows <;> rfl
  | cons t tokens ih =>
    cases rows with
    | zero => rfl
    | succ rows =>
      have hrest := ih (y + 1) rows
      rw [Nat.add_right_comm] at hrest
      simp only [tokenRows, tokenRow, row_shift, hrest, shift_append]

theorem within_tokenRows {y rows : Nat} (htop : area.top ≤ y) (hbottom : y + rows ≤ area.bottom) :
    (tokenRows area y rows tokens).Within area := by
  induction tokens generalizing y rows with
  | nil => cases rows <;> exact within_nil _
  | cons t tokens ih =>
    cases rows with
    | zero => exact within_nil _
    | succ rows =>
      exact within_append.2 ⟨(within_row _ _ _ _).mono fun a b h => h.of_row htop (by omega),
        ih (by omega) (by omega)⟩

theorem table_shift : table (area.shift dx dy) tokens = (table area tokens).shift dx dy := by
  simp only [table, Area.isEmpty_shift, Area.shift_left, Area.shift_top, Area.shift_width,
    Area.shift_height, Nat.add_right_comm area.top dy, fill_mk_shift, row_shift, tokenRows_shift]
  split
  · rfl
  · simp only [shift_append]

theorem within_table : (table area tokens).Within area := by
  simp only [table]
  split
  · exact within_nil _
  · next h =>
    simp only [Area.isEmpty, Bool.or_eq_true, beq_iff_eq, not_or] at h
    have hrow : ∀ a b, (⟨area.left, area.top, area.width, 1⟩ : Area).Holds a b →
        area.Holds a b := fun a b h => h.of_row (Nat.le_refl _) (by simp only [Area.bottom]; omega)
    simp only [within_append]
    exact ⟨⟨(within_fill _ _).mono hrow, (within_row _ _ _ _).mono hrow⟩,
      within_tokenRows area tokens (by omega) (by simp only [Area.bottom]; omega)⟩

theorem draw_shift : draw tokens focused offset (area.shift dx dy) =
    (draw tokens focused offset area).shift dx dy := by
  have hsettle : settle tokens (area.shift dx dy) offset = settle tokens area offset := rfl
  have hheight : pageHeight (area.shift dx dy) = pageHeight area := rfl
  simp only [draw, hsettle, hheight, placeholder_shift, frame_shift, Area.inner_shift, table_shift]
  split
  · rfl
  · exact (shift_append ..).symm

theorem bordered_draw : (draw tokens focused offset area).Bordered area := by
  simp only [draw]
  split
  · exact bordered_placeholder _ _ _ _ _
  · exact bordered_append.2 ⟨bordered_frame _ _ _, (within_table area.inner _).bordered_of_inner⟩

end TokenTable

namespace StatusBar

variable (analysis : Analysis) (message : String)

theorem draw_shift : draw analysis message (area.shift dx dy) =
    (draw analysis message area).shift dx dy := by
  simp only [draw, Area.splitColumns_shift, fill_shift, paragraph_shift, shift_append]

theorem within_draw : (draw analysis message area).Within area := by
  have hleft : ∀ a b, (area.splitColumns 50).1.Holds a b → area.Holds a b := fun _ _ =>
    .of_splitColumns_fst (by decide)
  have hright : ∀ a b, (area.splitColumns 50).2.Holds a b → area.Holds a b := fun _ _ =>
    .of_splitColumns_snd (by decide)
  simp only [draw, within_append]
  exact ⟨⟨⟨(within_fill _ _).mono hleft, (within_paragraph _ _ _).mono hleft⟩,
    (within_fill _ _).mono hright⟩, (within_paragraph _ _ _).mono hright⟩

end StatusBar

end SourceLens.Pane
