import SourceLens.Screen.Paragraph

/-! # Drawings on a moved area

The place of an area decides nothing about what is drawn on it: when the area is moved, every stroke
moves with it. -/
namespace SourceLens

namespace Area

/-- The area so many columns to the right and so many rows down. -/
def shift (a : Area) (dx dy : Nat) : Area := ⟨a.left + dx, a.top + dy, a.width, a.height⟩

variable (a : Area) (dx dy : Nat)

@[simp] theorem shift_left : (a.shift dx dy).left = a.left + dx := rfl

@[simp] theorem shift_top : (a.shift dx dy).top = a.top + dy := rfl

@[simp] theorem shift_width : (a.shift dx dy).width = a.width := rfl

@[simp] theorem shift_height : (a.shift dx dy).height = a.height := rfl

@[simp] theorem isEmpty_shift : (a.shift dx dy).isEmpty = a.isEmpty := rfl

theorem inner_shift : (a.shift dx dy).inner = a.inner.shift dx dy := by
  simp [inner, shift, Nat.add_right_comm]

theorem splitColumns_shift (percent : Nat) : (a.shift dx dy).splitColumns percent =
    ((a.splitColumns percent).1.shift dx dy, (a.splitColumns percent).2.shift dx dy) := by
  simp [splitColumns, shift, Nat.add_right_comm]

theorem positions_shift : (a.shift dx dy).positions =
    a.positions.map fun (x, y) => (x + dx, y + dy) := by
  simp [positions, List.map_flatMap, Function.comp_def, Nat.add_right_comm]

end Area

/-- The stroke on the cell so many columns to the right and so many rows down. -/
def Stroke.shift (t : Stroke) (dx dy : Nat) : Stroke := ⟨t.x + dx, t.y + dy, t.mark⟩

namespace Drawing

/-- The drawing so many columns to the right and so many rows down. -/
def shift (d : Drawing) (dx dy : Nat) : Drawing := d.map fun t => t.shift dx dy

@[simp] theorem shift_nil (dx dy : Nat) : shift [] dx dy = [] := rfl

@[simp] theorem shift_cons (t : Stroke) (d : Drawing) (dx dy : Nat) :
    shift (t :: d) dx dy = t.shift dx dy :: d.shift dx dy := rfl

@[simp] theorem shift_append (d e : Drawing) (dx dy : Nat) :
    shift (d ++ e) dx dy = d.shift dx dy ++ e.shift dx dy := List.map_append

variable (area : Area) (title symbol : String) (style border : Style) (x y dx dy : Nat)

theorem fill_shift : fill (area.shift dx dy) style = (fill area style).shift dx dy := by
  simp [fill, shift, Area.positions_shift, Stroke.shift]

theorem fill_mk_shift (left top width height : Nat) :
    fill ⟨left + dx, top + dy, width, height⟩ style =
      (fill ⟨left, top, width, height⟩ style).shift dx dy :=
  fill_shift ⟨left, top, width, height⟩ style dx dy

theorem erase_shift (count : Nat) :
    erase (x + dx) (y + dy) count = (erase x y count).shift dx dy := by
  simp [erase, shift, Stroke.shift, Nat.add_right_comm]

theorem letters_shift {left x : Nat} (h : left ≤ x) (right : Nat) (clusters : List (List Char)) :
    letters (left + dx) (y + dy) (right + dx) (x + dx) clusters =
      (letters left y right x clusters).shift dx dy := by
  induction clusters generalizing x with
  | nil => rfl
  | cons g clusters ih =>
    have herase := erase_shift (x + 1) y dx dy (Text.columnsOf g - 1)
    have hrest := ih (x := x + Text.columnsOf g) (by omega)
    rw [Nat.add_right_comm] at herase hrest
    have hroom : right + dx < x + dx + Text.columnsOf g ↔ right < x + Text.columnsOf g := by omega
    simp only [letters, hroom, Nat.add_right_cancel_iff, herase, hrest]
    split
    · rfl
    · have hbefore : x ≠ left → x + dx - 1 = x - 1 + dx := by omega
      split
      · simp [Stroke.shift]
      · next hx => split <;> simp [Stroke.shift, hbefore hx]

theorem word_shift (room : Nat) (text : List Char) :
    word (x + dx) (y + dy) room text = (word x y room text).shift dx dy := by
  simp only [word]
  split
  · rfl
  · next g clusters _ =>
    have herase := erase_shift (x + 1) y dx dy (Text.columnsOf g - 1)
    have hrest := letters_shift y dx dy (Nat.le_add_right x (Text.columnsOf g)) (x + room) clusters
    rw [Nat.add_right_comm] at herase
    rw [Nat.add_right_comm x _ dx, Nat.add_right_comm x _ dx] at hrest
    rw [herase, hrest]
    split <;> simp [Stroke.shift]

theorem lettering_shift (room : Nat) (words : List (List Char)) :
    lettering (x + dx) (y + dy) room words = (lettering x y room words).shift dx dy := by
  induction words generalizing x room with
  | nil => rfl
  | cons text words ih =>
    have hrest := ih (x + Text.columnsOf text) (room - Text.columnsOf text)
    rw [Nat.add_right_comm] at hrest
    simp only [lettering, word_shift, hrest, ih]
    split
    · rfl
    · split <;> simp

theorem columnOf_shift : columnOf (area.shift dx dy) (x + dx) symbol style =
    (columnOf area x symbol style).shift dx dy := by
  simp [columnOf, shift, Stroke.shift, Nat.add_right_comm]

theorem rowOf_shift : rowOf (area.shift dx dy) (y + dy) symbol style =
    (rowOf area y symbol style).shift dx dy := by
  simp [rowOf, shift, Stroke.shift, Nat.add_right_comm]

theorem frame_shift : frame (area.shift dx dy) title style =
    (frame area title style).shift dx dy := by
  by_cases h : area.isEmpty
  · simp [frame, h]
  · have hne := h
    simp only [Area.isEmpty, Bool.or_eq_true, beq_iff_eq, not_or] at hne
    have hright : (area.shift dx dy).right - 1 = area.right - 1 + dx := by
      simp only [Area.right, Area.shift_left, Area.shift_width]
      omega
    have hbottom : (area.shift dx dy).bottom - 1 = area.bottom - 1 + dy := by
      simp only [Area.bottom, Area.shift_top, Area.shift_height]
      omega
    simp only [frame, Area.isEmpty_shift, h, hright, hbottom, Area.shift_width, Area.shift_left,
      Area.shift_top, Nat.add_right_comm area.left dx 1, columnOf_shift, rowOf_shift,
      lettering_shift, Bool.false_eq_true, if_false, shift_append, shift_cons, shift_nil,
      Stroke.shift]

theorem glyphRow_shift (glyphs : List Glyph) :
    glyphRow (x + dx) (y + dy) glyphs = (glyphRow x y glyphs).shift dx dy := by
  induction glyphs generalizing x with
  | nil => rfl
  | cons g glyphs ih =>
    have hrest := ih (x + g.columns)
    rw [Nat.add_right_comm] at hrest
    simp only [glyphRow, glyph, hrest]
    split <;> simp [Stroke.shift]

theorem lineRows_shift (alignment : Alignment) (rows : Nat) (lines : List Line) :
    lineRows (area.shift dx dy) alignment (y + dy) rows lines =
      (lineRows area alignment y rows lines).shift dx dy := by
  induction lines generalizing y rows with
  | nil => cases rows <;> rfl
  | cons line lines ih =>
    cases rows with
    | zero => rfl
    | succ rows =>
      have hrest := ih (y + 1) rows
      rw [Nat.add_right_comm] at hrest
      cases alignment with
      | left =>
        simp only [lineRows, Area.shift_left, Area.shift_width, hrest, glyphRow_shift,
          shift_append]
      | right =>
        simp only [lineRows, Area.shift_left, Area.shift_width, hrest,
          Nat.add_right_comm area.left dx, glyphRow_shift, shift_append]

theorem paragraph_shift (alignment : Alignment) (lines : List Line) :
    paragraph (area.shift dx dy) alignment lines =
      (paragraph area alignment lines).shift dx dy :=
  lineRows_shift area area.top dx dy alignment area.height lines

theorem placeholder_shift (text : String) :
    placeholder (area.shift dx dy) title border text style =
      (placeholder area title border text style).shift dx dy := by
  simp only [placeholder, fill_shift, frame_shift, Area.inner_shift, paragraph_shift, shift_append]

end Drawing

end SourceLens
