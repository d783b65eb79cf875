import SourceLens.Viewer
import SourceLens.Proofs.Pane.Page

/-! # What a drawing selects

A drawing moves the offset of each pane to the nearest one that keeps the last page full, and shows
the page of the pane's items that begins there. -/
namespace SourceLens

theorem Offsets.ext_get {o o' : Offsets} (h : ∀ p, o.get p = o'.get p) : o = o' := by
  have hsource := h .source
  have htokens := h .tokens
  have hsymbols := h .symbols
  cases o
  cases o'
  simp_all [get]

namespace Viewer

variable {v : Viewer} {layout : Layout} {p : Focus}

/-- The number of items of a pane. -/
def total (v : Viewer) : Focus → Nat
  | .source => (Pane.SourceText.highlight v.analysis.tokens v.analysis.symbols).length
  | .tokens => v.analysis.tokens.length
  | .symbols => max v.analysis.symbols.functionNames.size v.analysis.symbols.variableNames.size

/-- The rows that a pane has for its items; those of the tokens are below a heading. -/
def Layout.rows (layout : Layout) : Focus → Nat
  | .source => Pane.visibleHeight layout.source
  | .tokens => max 1 (Pane.visibleHeight layout.tokens - 1)
  | .symbols => Pane.visibleHeight layout.symbols

/-- The offset of the last page of a pane. -/
def last (v : Viewer) (layout : Layout) (p : Focus) : Int :=
  max 0 ((v.total p : Int) - layout.rows p)

theorem last_nonneg (v : Viewer) (layout : Layout) (p : Focus) : 0 ≤ v.last layout p := by
  rw [last]
  omega

theorem rows_pos (layout : Layout) (p : Focus) : 0 < layout.rows p := by
  cases p <;> simp only [Layout.rows, Pane.visibleHeight] <;> omega

/-! ## The offsets -/

/-- Only in a text without tokens, offsets are passed over. -/
theorem get_settle_eq_ite (v : Viewer) (layout : Layout) (p : Focus) :
    (v.settle layout).get p =
      if v.analysis.tokens = [] ∧ p ≠ .symbols then v.offsets.get p
      else min (v.offsets.get p) (v.total p - layout.rows p) := by
  cases p with
  | source =>
    simp [settle, Offsets.get, Pane.SourceText.settle, Pane.clampOffset_eq_min, total, Layout.rows]
  | tokens =>
    simp [settle, Offsets.get, Pane.TokenTable.settle, Pane.clampOffset_eq_min, total,
      Layout.rows, Pane.TokenTable.pageHeight, Nat.max_comm]
  | symbols =>
    simp [settle, Offsets.get, Pane.NameLists.settle, Pane.clampOffset_eq_min, total,
      Layout.rows, SymbolTable.longest]

theorem get_settle (h : v.analysis.tokens ≠ []) (layout : Layout) (p : Focus) :
    (v.settle layout).get p = min (v.offsets.get p) (v.total p - layout.rows p) := by
  rw [get_settle_eq_ite, if_neg fun hempty => h hempty.1]

theorem get_settle_le (h : v.analysis.tokens ≠ []) (layout : Layout) (p : Focus) :
    (v.settle layout).get p ≤ v.total p - layout.rows p := by
  rw [get_settle h]
  exact Nat.min_le_right _ _

theorem settle_settle (h : v.analysis.tokens ≠ []) (layout : Layout) :
    settle { v with offsets := v.settle layout } layout = v.settle layout := by
  apply Offsets.ext_get
  intro p
  exact (get_settle (v := { v with offsets := v.settle layout }) h layout p).trans
    (Nat.min_eq_left (get_settle_le h layout p))

/-! ## The items -/

/-- The items that a drawing shows: lines with their numbers, tokens, and names of both lists. -/
structure Pages where
  lines : List Line
  tokens : List Token
  functionNames : List String
  variableNames : List String

/-- The drawing of every pane with the items that were selected. -/
def drawPages (v : Viewer) (layout : Layout) (pages : Pages) : Drawing :=
  Pane.SourceText.showing v.title (v.focus == .source) layout.source pages.lines ++
    Pane.NameLists.showing v.analysis.symbols (v.focus == .symbols) layout.symbols
      pages.functionNames pages.variableNames ++
    Pane.TokenTable.showing v.analysis.tokens.length (v.focus == .tokens) layout.tokens
      pages.tokens ++
    Pane.Legend.draw v.language layout.legend ++
    Pane.StatusBar.draw v.analysis v.message layout.status

def pagesAt (v : Viewer) (layout : Layout) (offsets : Offsets) : Pages where
  lines := Pane.page offsets.source (layout.rows .source) (Pane.SourceText.numbered v.analysis)
  tokens := Pane.page offsets.tokens (layout.rows .tokens) v.analysis.tokens
  functionNames :=
    Pane.page offsets.symbols (layout.rows .symbols) v.analysis.symbols.functionNames.toList
  variableNames :=
    Pane.page offsets.symbols (layout.rows .symbols) v.analysis.symbols.variableNames.toList

theorem draw_eq_drawPages (h : v.analysis.tokens ≠ []) (layout : Layout) :
    v.draw layout = v.drawPages layout (v.pagesAt layout (v.settle layout)) := by
  have hrows : Pane.TokenTable.pageHeight layout.tokens = layout.rows .tokens := Nat.max_comm _ _
  rw [draw, Pane.SourceText.draw_eq_showing h, Pane.NameLists.draw_eq_showing,
    Pane.TokenTable.draw_eq_showing h, hrows]
  rfl

end Viewer

end SourceLens
