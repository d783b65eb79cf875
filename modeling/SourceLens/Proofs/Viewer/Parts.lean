import SourceLens.Viewer
import SourceLens.Proofs.Pane.Room
import SourceLens.Proofs.Screen.Paint

/-! # The screen is its parts side by side

The areas of the panes cut the screen into parts, and each part looks as if its pane were drawn
alone on a screen of its size. -/
namespace SourceLens

namespace Viewer

/-- A part of the screen, with one pane on it. -/
inductive Part
  | source | symbols | tokens | legend | status
deriving DecidableEq, Repr

namespace Part

/-- Every part once. -/
def all : List Part := [source, symbols, tokens, legend, status]

theorem mem_all (p : Part) : p ∈ all := by cases p <;> decide

theorem nodup_all : all.Nodup := by decide

/-- The part of a pane that keys can go to. -/
def ofFocus : Focus → Part
  | .source => source
  | .tokens => tokens
  | .symbols => symbols

end Part

/-- The area of a part. -/
def Layout.area (layout : Layout) : Part → Area
  | .source => layout.source
  | .symbols => layout.symbols
  | .tokens => layout.tokens
  | .legend => layout.legend
  | .status => layout.status

/-- The area of a part on a screen of some size. -/
abbrev Part.area (p : Part) (width height : Nat) : Area := (Layout.of ⟨0, 0, width, height⟩).area p

/-- The drawing of the pane of a part, on any area. -/
def drawPart (v : Viewer) (area : Area) : Part → Drawing
  | .source => Pane.SourceText.draw v.analysis v.title (v.focus == .source) v.offsets.source area
  | .symbols => Pane.NameLists.draw v.analysis.symbols (v.focus == .symbols) v.offsets.symbols area
  | .tokens => Pane.TokenTable.draw v.analysis.tokens (v.focus == .tokens) v.offsets.tokens area
  | .legend => Pane.Legend.draw v.language area
  | .status => Pane.StatusBar.draw v.analysis v.message area

/-- The offset at which a pane is drawn, on any area. -/
def settlePart (v : Viewer) (area : Area) : Focus → Nat
  | .source => Pane.SourceText.settle v.analysis area v.offsets.source
  | .tokens => Pane.TokenTable.settle v.analysis.tokens area v.offsets.tokens
  | .symbols => Pane.NameLists.settle v.analysis.symbols area v.offsets.symbols

/-- The pane of a part alone on a fresh screen. -/
def alone (v : Viewer) (width height : Nat) (p : Part) : Screen :=
  (Screen.blank width height).paint (v.drawPart ⟨0, 0, width, height⟩ p)

/-- The drawings of parts one after the other. -/
def drawParts (v : Viewer) (layout : Layout) (order : List Part) : Drawing :=
  order.flatMap fun p => v.drawPart (layout.area p) p

theorem draw_eq_drawParts (v : Viewer) (layout : Layout) :
    v.draw layout = v.drawParts layout Part.all := by
  simp [draw, drawParts, Part.all, drawPart, Layout.area]

/-! ## The areas -/

namespace Part

/-- The part that the cell in a column and a row belongs to. -/
def ofCell (width height x y : Nat) : Part :=
  if y + 1 = height then .status
  else if x < Area.share 60 width then
    if y < Area.share 65 (height - 1) then .source else .symbols
  else if y < height - 10 then .tokens else .legend

variable {width height x y : Nat} {p : Part}

/-- The areas hold the cells of the screen, each in one of them. -/
theorem holds_area_iff : (p.area width height).Holds x y ↔
    x < width ∧ y < height ∧ p = ofCell width height x y := by
  have hcolumns : Area.share 60 width ≤ width := Area.share_le (by decide) width
  have hrows : Area.share 65 (height - 1) ≤ height - 1 := Area.share_le (by decide) _
  cases p <;> simp only [area, Layout.area, Layout.of, Area.splitBottom, Area.splitColumns,
    Area.splitRows, Area.Holds, Area.right, Area.bottom, ofCell] <;> split_ifs <;>
    simp only [and_false, and_true, iff_false] <;> omega

/-- On the left of a part that is not at the edge of the screen there is a framed one. -/
theorem exists_framed_left (h : (p.area width height).Holds (x + 1) y)
    (hleft : (p.area width height).left = x + 1) :
    ∃ q : Part, q ≠ .status ∧ (q.area width height).Holds x y ∧
      (q.area width height).right = x + 1 := by
  obtain ⟨hx, hy, -⟩ := holds_area_iff.1 h
  have hedge : x + 1 = Area.share 60 width ∧ y + 1 ≠ height := by
    cases p <;> simp only [area, Layout.area, Layout.of, Area.splitBottom, Area.splitColumns,
      Area.splitRows, Area.Holds, Area.bottom] at h hleft <;> omega
  have hright : ∀ q : Part, q = .source ∨ q = .symbols →
      (q.area width height).right = x + 1 := by
    rintro q (rfl | rfl) <;> exact (Nat.zero_add _).trans hedge.1.symm
  have hq : ofCell width height x y = .source ∨ ofCell width height x y = .symbols := by
    rw [ofCell, if_neg hedge.2, if_pos (by omega)]
    split
    · exact .inl rfl
    · exact .inr rfl
  refine ⟨_, ?_, holds_area_iff.2 ⟨by omega, hy, rfl⟩, hright _ hq⟩
  rcases hq with hq | hq <;> rw [hq] <;> decide

end Part

/-! ## The drawings of the parts -/

variable (v : Viewer) (area : Area) (p : Part)

theorem drawPart_shift (dx dy : Nat) :
    v.drawPart (area.shift dx dy) p = (v.drawPart area p).shift dx dy := by
  cases p with
  | source => exact Pane.SourceText.draw_shift ..
  | symbols => exact Pane.NameLists.draw_shift ..
  | tokens => exact Pane.TokenTable.draw_shift ..
  | legend => exact Pane.Legend.draw_shift ..
  | status => exact Pane.StatusBar.draw_shift ..

theorem bordered_drawPart (hp : p ≠ .status) : (v.drawPart area p).Bordered area := by
  cases p with
  | source => exact Pane.SourceText.bordered_draw _ _ _ _ _
  | symbols => exact Pane.NameLists.bordered_draw _ _ _ _
  | tokens => exact Pane.TokenTable.bordered_draw _ _ _ _
  | legend => exact Pane.Legend.bordered_draw _ _
  | status => exact absurd rfl hp

theorem within_drawPart : (v.drawPart area p).Within area := by
  by_cases hp : p = .status
  · subst hp
    exact Pane.StatusBar.within_draw _ _ _
  · exact (v.bordered_drawPart area p hp).within

/-! ## The screen -/

variable {v p} {width height x y : Nat} {order : List Part}

/-- On the cells of a part only its own pane leaves marks, whatever the order of the panes. -/
theorem marksAt_drawParts (hn : order.Nodup) (hp : p ∈ order)
    (h : (p.area width height).Holds x y) :
    (v.drawParts (.of ⟨0, 0, width, height⟩) order).marksAt x y =
      (v.drawPart (p.area width height) p).marksAt x y := by
  have hother : ∀ q ∈ order, q ≠ p → (v.drawPart (q.area width height) q).marksAt x y = [] := by
    intro q _ hq
    refine (v.within_drawPart _ q).marksAt_eq_nil fun hqxy => hq ?_
    exact (Part.holds_area_iff.1 hqxy).2.2.trans (Part.holds_area_iff.1 h).2.2.symm
  rw [drawParts, Drawing.marksAt_flatMap]
  obtain ⟨before, behind, rfl⟩ := List.append_of_mem hp
  obtain ⟨-, hcons, hne⟩ := List.nodup_append.1 hn
  have hbefore := List.flatMap_eq_nil_iff.2 fun q hq =>
    hother q (List.mem_append_left _ hq) (hne q hq p (.head _))
  have hbehind := List.flatMap_eq_nil_iff.2 fun q hq =>
    hother q (List.mem_append_right _ (.tail _ hq)) fun e => (List.nodup_cons.1 hcons).1 (e ▸ hq)
  rw [List.flatMap_append, List.flatMap_cons, hbefore, hbehind, List.append_nil, List.nil_append]

theorem render_snd (v : Viewer) (width height : Nat) : (v.render width height).2 =
    (Screen.blank width height).paint (v.drawParts (.of ⟨0, 0, width, height⟩) Part.all) := by
  rw [← draw_eq_drawParts]
  rfl

theorem cell?_render (h : (p.area width height).Holds x y) :
    (v.render width height).2.cell? x y = some (Cell.applyAll {}
      ((v.drawPart (p.area width height) p).marksAt x y)) := by
  obtain ⟨hx, hy, -⟩ := Part.holds_area_iff.1 h
  rw [render_snd, Screen.cell?_paint_blank hx hy, marksAt_drawParts Part.nodup_all p.mem_all h]

/-- The order in which the panes are drawn does not matter. -/
theorem paint_drawParts_perm (v : Viewer) (width height : Nat) (h : order.Perm Part.all) :
    (Screen.blank width height).paint (v.drawParts (.of ⟨0, 0, width, height⟩) order) =
      (v.render width height).2 := by
  refine Screen.ext_cell? (by simp [render_snd]) (by simp [render_snd]) fun x y hx hy => ?_
  rw [Screen.width_paint, Screen.width_blank] at hx
  rw [Screen.height_paint, Screen.height_blank] at hy
  have hp := Part.holds_area_iff.2 ⟨hx, hy, rfl⟩
  rw [cell?_render hp, Screen.cell?_paint_blank hx hy,
    marksAt_drawParts (h.nodup_iff.2 Part.nodup_all) (h.mem_iff.2 (Part.mem_all _)) hp]

theorem cell?_alone (v : Viewer) (hx : x < width) (hy : y < height) (dx dy : Nat) :
    (v.alone width height p).cell? x y = some (Cell.applyAll {}
      ((v.drawPart ⟨dx, dy, width, height⟩ p).marksAt (dx + x) (dy + y))) := by
  have hshift : (⟨dx, dy, width, height⟩ : Area) = (⟨0, 0, width, height⟩ : Area).shift dx dy := by
    simp [Area.shift]
  rw [alone, Screen.cell?_paint_blank hx hy, hshift, drawPart_shift, Nat.add_comm dx,
    Nat.add_comm dy, Drawing.marksAt_shift]

/-- No symbol reaches out of a framed part: in the last column there is only its border. -/
theorem columns_framed_lt (hp : p ≠ .status) (h : (p.area width height).Holds x y)
    (hx : (p.area width height).right = x + 1) :
    ((v.render width height).2.cell? x y).any (2 ≤ ·.columns) = false := by
  rw [cell?_render h, Option.any_some, decide_eq_false_iff_not, Nat.not_le]
  apply Cell.columns_applyAll_lt Cell.columns_default
  intro m hm
  exact (v.bordered_drawPart _ p hp _ (Drawing.mem_marksAt.1 hm)).2 hx.symm

section Cells

variable (v p) (width height x y)

theorem cell?_render_add (hx : x < (p.area width height).width)
    (hy : y < (p.area width height).height) :
    let area := p.area width height
    (v.render width height).2.cell? (area.left + x) (area.top + y) =
      (v.alone area.width area.height p).cell? x y := by
  intro area
  rw [cell?_alone v hx hy area.left area.top]
  exact cell?_render (Area.holds_add hx hy)

theorem seen?_render_add (hx : x < (p.area width height).width)
    (hy : y < (p.area width height).height) :
    let area := p.area width height
    (v.render width height).2.seen? (area.left + x) (area.top + y) =
      (v.alone area.width area.height p).seen? x y := by
  intro area
  have hholds : area.Holds (area.left + x) (area.top + y) := Area.holds_add hx hy
  have hcell := cell?_render_add v p width height x y hx hy
  have hrow : area.top + y < (v.render width height).2.height := by
    rw [render_snd, Screen.height_paint]
    exact (Part.holds_area_iff.1 hholds).2.1
  have hrow' : y < (v.alone area.width area.height p).height := by
    rw [alone, Screen.height_paint]
    exact hy
  cases x with
  | zero =>
    rw [Screen.seen?_zero hrow', ← hcell]
    cases hleft : area.left with
    | zero => exact Screen.seen?_zero hrow
    | succ k =>
      rw [hleft] at hholds
      obtain ⟨q, hq, hqxy, hright⟩ := Part.exists_framed_left hholds hleft
      rw [Nat.add_zero, Screen.seen?_succ hrow, columns_framed_lt hq hqxy hright]
      exact Option.map_id'
  | succ x =>
    have hbefore := cell?_render_add v p width height x y (Nat.lt_of_succ_lt hx) hy
    rw [Screen.seen?_succ hrow', ← Nat.add_assoc, Screen.seen?_succ hrow, hbefore, Nat.add_assoc,
      hcell]

end Cells

/-- The screen of the viewer, of any size, is made of its parts. Each cell lies in one of them, and
no pane leaves its part. The cells of a part, in themselves and as they are seen, and the offset of
its pane are those of the pane alone on a fresh screen of the part's size, and the panes can be
drawn in any order. -/
theorem render_eq_alone (v : Viewer) (width height : Nat) :
    let layout := Layout.of ⟨0, 0, width, height⟩
    let screen := (v.render width height).2
    (∀ x y, x < width ∧ y < height ↔ ∃! p, (layout.area p).Holds x y) ∧
      (∀ p, (v.drawPart (layout.area p) p).Within (layout.area p)) ∧
      (∀ p, let area := layout.area p
        let alone := v.alone area.width area.height p
        ∀ x < area.width, ∀ y < area.height,
          screen.cell? (area.left + x) (area.top + y) = alone.cell? x y ∧
          screen.seen? (area.left + x) (area.top + y) = alone.seen? x y) ∧
      (∀ f, let area := layout.area (.ofFocus f)
        (v.render width height).1.offsets.get f =
          v.settlePart ⟨0, 0, area.width, area.height⟩ f) ∧
      ∀ order, order.Perm Part.all →
        (Screen.blank width height).paint (v.drawParts layout order) = screen := by
  intro layout screen
  refine ⟨fun x y => ⟨?_, ?_⟩, fun p => v.within_drawPart _ p, ?_, ?_, ?_⟩
  · rintro ⟨hx, hy⟩
    exact ⟨_, Part.holds_area_iff.2 ⟨hx, hy, rfl⟩, fun q hq => (Part.holds_area_iff.1 hq).2.2⟩
  · rintro ⟨p, hp, -⟩
    obtain ⟨hx, hy, -⟩ := Part.holds_area_iff.1 hp
    exact ⟨hx, hy⟩
  · intro p area alone x hx y hy
    exact ⟨cell?_render_add v p width height x y hx hy, seen?_render_add v p width height x y hx hy⟩
  · intro f
    cases f <;> rfl
  · intro order h
    exact paint_drawParts_perm v width height h

end Viewer

end SourceLens
