import SourceLens.Screen.Paragraph

/-! # Drawings that keep to an area

No stroke leaves the area that is drawn on, and in the last column of a framed area no symbol is so
wide that it would reach out of it. -/
namespace SourceLens

namespace Area

variable {a : Area} {x y percent : Nat}

theorem holds_add (hx : x < a.width) (hy : y < a.height) : a.Holds (a.left + x) (a.top + y) :=
  ⟨Nat.le_add_right .., Nat.add_lt_add_left hx _, Nat.le_add_right .., Nat.add_lt_add_left hy _⟩

theorem Holds.of_inner (h : a.inner.Holds x y) : a.Holds x y := by
  simp only [Holds, inner, right, bottom] at h ⊢
  omega

/-- A row of the area. -/
theorem Holds.of_row {row : Nat} (h : (⟨a.left, row, a.width, 1⟩ : Area).Holds x y)
    (htop : a.top ≤ row) (hbottom : row < a.bottom) : a.Holds x y := by
  simp only [Holds, right, bottom] at h htop hbottom ⊢
  omega

/-- A stretch of a row. -/
theorem Holds.of_segment {left start row width count : Nat}
    (h : (⟨start, row, count, 1⟩ : Area).Holds x y) (hleft : left ≤ start)
    (hright : start + count ≤ left + width ∨ count = 0) :
    (⟨left, row, width, 1⟩ : Area).Holds x y := by
  simp only [Holds, right, bottom] at h ⊢
  omega

theorem right_splitColumns (hp : percent ≤ 99) : (a.splitColumns percent).1.right ≤ a.right ∧
    (a.splitColumns percent).2.right = a.right := by
  have := share_le hp a.width
  simp only [splitColumns, right]
  omega

theorem Holds.of_splitColumns_fst (hp : percent ≤ 99)
    (h : (a.splitColumns percent).1.Holds x y) : a.Holds x y := by
  have := share_le hp a.width
  simp only [splitColumns, Holds, right, bottom] at h ⊢
  omega

theorem Holds.of_splitColumns_snd (hp : percent ≤ 99)
    (h : (a.splitColumns percent).2.Holds x y) : a.Holds x y := by
  have := share_le hp a.width
  simp only [splitColumns, Holds, right, bottom] at h ⊢
  omega

end Area

/-- The mark leaves no symbol of two columns or more where there was none. -/
def Mark.IsNarrow : Mark → Prop
  | glyph symbol _ => Text.columnsOf symbol.toList < 2
  | join _ => False
  | tint _ | reset => True

namespace Drawing

/-- Every stroke lies in the area. -/
def Within (d : Drawing) (area : Area) : Prop := ∀ t ∈ d, area.Holds t.x t.y

/-- Every stroke lies in the area, and those in its last column are narrow. -/
def Bordered (d : Drawing) (area : Area) : Prop :=
  ∀ t ∈ d, area.Holds t.x t.y ∧ (t.x + 1 = area.right → t.mark.IsNarrow)

variable {d e : Drawing} {area b : Area}

@[simp] theorem within_nil (area : Area) : Within [] area := List.forall_mem_nil _

@[simp] theorem within_append : Within (d ++ e) area ↔ d.Within area ∧ e.Within area :=
  List.forall_mem_append

@[simp] theorem within_cons {t : Stroke} :
    Within (t :: d) area ↔ area.Holds t.x t.y ∧ d.Within area :=
  List.forall_mem_cons

theorem Within.mono (h : d.Within b) (hb : ∀ x y, b.Holds x y → area.Holds x y) : d.Within area :=
  fun t ht => hb _ _ (h t ht)

@[simp] theorem bordered_nil (area : Area) : Bordered [] area := List.forall_mem_nil _

@[simp] theorem bordered_append : Bordered (d ++ e) area ↔ d.Bordered area ∧ e.Bordered area :=
  List.forall_mem_append

@[simp] theorem bordered_cons {t : Stroke} : Bordered (t :: d) area ↔
    (area.Holds t.x t.y ∧ (t.x + 1 = area.right → t.mark.IsNarrow)) ∧ d.Bordered area :=
  List.forall_mem_cons

theorem Bordered.within (h : d.Bordered area) : d.Within area := fun t ht => (h t ht).1

theorem Bordered.mono (h : d.Bordered b) (hb : ∀ x y, b.Holds x y → area.Holds x y)
    (hr : b.right ≤ area.right) : d.Bordered area := by
  intro t ht
  obtain ⟨hin, hnarrow⟩ := h t ht
  refine ⟨hb _ _ hin, fun hx => hnarrow ?_⟩
  have hlt := hin.2.1
  omega

theorem Within.bordered_of_inner (h : d.Within area.inner) : d.Bordered area := by
  intro t ht
  have hi := h t ht
  refine ⟨hi.of_inner, fun hx => ?_⟩
  simp only [Area.Holds, Area.inner, Area.right] at hi hx
  omega

/-! ## Strokes -/

theorem within_fill (area : Area) (style : Style) : (fill area style).Within area := by
  intro t ht
  obtain ⟨⟨x, y⟩, h, rfl⟩ := List.mem_map.1 ht
  exact Area.mem_positions.1 h

theorem bordered_fill (area : Area) (style : Style) : (fill area style).Bordered area := by
  intro t ht
  refine ⟨within_fill area style t ht, fun _ => ?_⟩
  obtain ⟨p, -, rfl⟩ := List.mem_map.1 ht
  trivial

theorem within_erase (x y count : Nat) : (erase x y count).Within ⟨x, y, count, 1⟩ := by
  intro t ht
  obtain ⟨dx, h, rfl⟩ := List.mem_map.1 ht
  rw [List.mem_range] at h
  simp only [Area.Holds, Area.right, Area.bottom]
  omega

theorem within_letters {left right x : Nat} (y : Nat) (hx : left ≤ x) (hlr : left < right)
    (clusters : List (List Char)) :
    (letters left y right x clusters).Within ⟨left, y, right - left, 1⟩ := by
  induction clusters generalizing x with
  | nil => exact within_nil _
  | cons g clusters ih =>
    have herase := within_erase (x + 1) y (Text.columnsOf g - 1)
    simp only [letters]
    split
    · exact within_nil _
    · refine within_append.2 ⟨within_cons.2 ⟨?_, herase.mono fun _ _ h => ?_⟩, ih (by omega)⟩
      · split
        · simp only [Area.Holds, Area.right, Area.bottom]
          omega
        · split <;> simp only [Area.Holds, Area.right, Area.bottom] <;> omega
      · exact h.of_segment (by omega) (by omega)

theorem within_word (x y : Nat) {room : Nat} (hroom : 0 < room) (text : List Char) :
    (word x y room text).Within ⟨x, y, room, 1⟩ := by
  simp only [word]
  split
  · exact within_nil _
  · next g clusters _ =>
    split
    · exact within_nil _
    · have herase := within_erase (x + 1) y (Text.columnsOf g - 1)
      have hrest := within_letters y (Nat.le_add_right x (Text.columnsOf g))
        (Nat.lt_add_of_pos_right (k := room) hroom) clusters
      rw [Nat.add_sub_cancel_left] at hrest
      refine within_append.2 ⟨within_cons.2 ⟨?_, herase.mono fun _ _ h => ?_⟩, hrest⟩
      · simp only [Area.Holds, Area.right, Area.bottom]
        omega
      · exact h.of_segment (by omega) (by omega)

theorem within_lettering (x y room : Nat) (words : List (List Char)) :
    (lettering x y room words).Within ⟨x, y, room, 1⟩ := by
  induction words generalizing x room with
  | nil => exact within_nil _
  | cons text words ih =>
    simp only [lettering]
    split
    · exact within_nil _
    · split
      · exact ih x room
      · exact within_append.2 ⟨within_word x y (by omega) text,
          (ih _ _).mono fun _ _ h => h.of_segment (by omega) (by omega)⟩

/-! ## Frames -/

theorem columnsOf_border : ∀ symbol ∈ ["│", "─", "┌", "┐", "└", "┘"],
    Text.columnsOf symbol.toList < 2 := by
  decide +kernel

theorem bordered_columnOf {x : Nat} {symbol : String} (hl : area.left ≤ x) (hr : x < area.right)
    (hs : Text.columnsOf symbol.toList < 2) (style : Style) :
    (columnOf area x symbol style).Bordered area := by
  intro t ht
  obtain ⟨dy, h, rfl⟩ := List.mem_map.1 ht
  rw [List.mem_range] at h
  exact ⟨⟨hl, hr, Nat.le_add_right .., Nat.add_lt_add_left h _⟩, fun _ => hs⟩

theorem bordered_rowOf {y : Nat} {symbol : String} (ht : area.top ≤ y) (hb : y < area.bottom)
    (hs : Text.columnsOf symbol.toList < 2) (style : Style) :
    (rowOf area y symbol style).Bordered area := by
  intro t hmem
  obtain ⟨dx, h, rfl⟩ := List.mem_map.1 hmem
  rw [List.mem_range] at h
  exact ⟨⟨Nat.le_add_right .., Nat.add_lt_add_left h _, ht, hb⟩, fun _ => hs⟩

theorem bordered_title (area : Area) {room : Nat} (hroom : room ≤ area.width - 2)
    (hheight : 0 < area.height) (words : List (List Char)) :
    (lettering (area.left + 1) area.top room words).Bordered area := by
  intro t ht
  have h := within_lettering (area.left + 1) area.top room words t ht
  simp only [Area.Holds, Area.right, Area.bottom] at h ⊢
  omega

theorem bordered_frame (area : Area) (title : String) (style : Style) :
    (frame area title style).Bordered area := by
  simp only [frame]
  split
  · exact bordered_nil _
  · next h =>
    simp only [Area.isEmpty, Bool.or_eq_true, beq_iff_eq, not_or] at h
    have hcorner : ∀ x y, x = area.left ∨ x = area.right - 1 → y = area.top ∨ y = area.bottom - 1 →
        area.Holds x y := by
      simp only [Area.Holds, Area.right, Area.bottom]
      omega
    obtain ⟨hl, hl', ht, ht'⟩ := hcorner _ _ (.inl rfl) (.inl rfl)
    obtain ⟨hr, hr', hb, hb'⟩ := hcorner _ _ (.inr rfl) (.inr rfl)
    have hbar := columnsOf_border "│" (by decide)
    have hdash := columnsOf_border "─" (by decide)
    simp only [bordered_append, bordered_cons]
    refine ⟨⟨⟨⟨⟨bordered_columnOf hl hl' hbar style, bordered_rowOf ht ht' hdash style⟩,
      bordered_columnOf hr hr' hbar style⟩, bordered_rowOf hb hb' hdash style⟩, ?_⟩,
      bordered_title area (Nat.min_le_left ..) (by omega) _⟩
    exact ⟨⟨hcorner _ _ (.inr rfl) (.inr rfl), fun _ => columnsOf_border "┘" (by decide)⟩,
      ⟨hcorner _ _ (.inr rfl) (.inl rfl), fun _ => columnsOf_border "┐" (by decide)⟩,
      ⟨hcorner _ _ (.inl rfl) (.inr rfl), fun _ => columnsOf_border "└" (by decide)⟩,
      ⟨hcorner _ _ (.inl rfl) (.inl rfl), fun _ => columnsOf_border "┌" (by decide)⟩,
      bordered_nil _⟩

/-! ## Paragraphs -/

theorem glyphColumns_fitting_le (width room : Nat) (glyphs : List Glyph) :
    glyphColumns (fitting width room glyphs) ≤ room := by
  induction glyphs generalizing room with
  | nil => exact Nat.zero_le _
  | cons g glyphs ih =>
    simp only [fitting]
    split
    · exact ih room
    · split
      · exact Nat.zero_le _
      · have h := ih (room - g.columns)
        rw [glyphColumns]
        omega

theorem within_glyphRow (x y : Nat) (glyphs : List Glyph) :
    (glyphRow x y glyphs).Within ⟨x, y, glyphColumns glyphs, 1⟩ := by
  induction glyphs generalizing x with
  | nil => exact within_nil _
  | cons g glyphs ih =>
    refine within_append.2 ⟨?_, (ih (x + g.columns)).mono fun _ _ h => ?_⟩
    · rw [glyph]
      split
      · exact within_nil _
      · refine within_cons.2 ⟨?_, within_nil _⟩
        simp only [Area.Holds, Area.right, Area.bottom, glyphColumns]
        omega
    · rw [glyphColumns]
      exact h.of_segment (by omega) (by omega)

theorem within_lineRows (alignment : Alignment) {y rows : Nat} (htop : area.top ≤ y)
    (hbottom : y + rows ≤ area.bottom) (lines : List Line) :
    (lineRows area alignment y rows lines).Within area := by
  induction lines generalizing y rows with
  | nil => cases rows <;> exact within_nil _
  | cons line lines ih =>
    cases rows with
    | zero => exact within_nil _
    | succ rows =>
      have hfit := glyphColumns_fitting_le area.width area.width line.glyphs
      refine within_append.2 ⟨(within_glyphRow _ _ _).mono fun a b h => ?_,
        ih (by omega) (by omega)⟩
      cases alignment <;> simp only [Area.Holds, Area.right, Area.bottom] at h hbottom ⊢ <;> omega

theorem within_paragraph (area : Area) (alignment : Alignment) (lines : List Line) :
    (paragraph area alignment lines).Within area :=
  within_lineRows alignment (Nat.le_refl _) (Nat.le_refl _) lines

theorem bordered_placeholder (area : Area) (title : String) (border : Style) (text : String)
    (style : Style) : (placeholder area title border text style).Bordered area := by
  rw [placeholder, bordered_append, bordered_append]
  exact ⟨⟨bordered_fill area style, bordered_frame area title border⟩,
    (within_paragraph area.inner .left _).bordered_of_inner⟩

end Drawing

end SourceLens
