import SourceLens.Pane.NameLists
import SourceLens.Pane.SourceText
import SourceLens.Pane.TokenTable
import Mathlib.Data.List.Basic

/-! # The pages of the panes

A pane selects items that stand one after another and draws each of them in a row of its own, as
far as its frame has rows. -/
namespace SourceLens

/-- Items one below the other, the first of them in the row `y`. -/
def Drawing.stacked {α : Type} (row : ℕ → α → Drawing) (y : ℕ) : List α → Drawing
  | [] => []
  | a :: items => row y a ++ stacked row (y + 1) items

/-- A drawing that goes down its rows until there is none left, or no item. -/
theorem Drawing.eq_stacked {α : Type} {row : ℕ → α → Drawing} {draw : ℕ → ℕ → List α → Drawing}
    (hzero : ∀ y items, draw y 0 items = []) (hnil : ∀ y rows, draw y rows [] = [])
    (hcons : ∀ y rows a items, draw y (rows + 1) (a :: items) = row y a ++ draw (y + 1) rows items)
    (y rows : ℕ) (items : List α) : draw y rows items = stacked row y (items.take rows) := by
  induction items generalizing y rows with
  | nil => rw [hnil, List.take_nil, stacked]
  | cons a items ih =>
    cases rows with
    | zero => rw [hzero, List.take_zero, stacked]
    | succ rows => rw [hcons, ih, List.take_succ_cons, stacked]

namespace Pane

open Drawing

section

variable {α : Type} {items shown : List α} {offset rows : ℕ}

end

variable {area : Area} {focused : Bool} {offset : ℕ}

namespace SourceText

def numbered (analysis : Analysis) : List Line :=
  (highlight analysis.tokens analysis.symbols).mapIdx fun i line => lineNumber (i + 1) :: line

def lineRow (inner : Area) (y : ℕ) (line : Line) : Drawing :=
  glyphRow inner.left y (fitting inner.width inner.width line.glyphs)

/-- The pane with the lines that were selected. -/
def showing (title : String) (focused : Bool) (area : Area) (lines : List Line) : Drawing :=
  frame area (" " ++ title ++ " ") (Theme.border focused) ++
    stacked (lineRow area.inner) area.inner.top (lines.take area.inner.height)

theorem lineRows_eq_stacked (inner : Area) (y rows : ℕ) (lines : List Line) :
    lineRows inner .left y rows lines = stacked (lineRow inner) y (lines.take rows) :=
  eq_stacked (fun _ _ => rfl) (fun _ rows => by cases rows <;> rfl) (fun _ _ _ _ => rfl)
    y rows lines

theorem draw_eq_showing {analysis : Analysis} (h : analysis.tokens ≠ []) (title : String) :
    draw analysis title focused offset area = showing title focused area
      (page (settle analysis area offset) (visibleHeight area) (numbered analysis)) := by
  simp only [draw, List.isEmpty_iff, if_neg h, showing, paragraph, lineRows_eq_stacked]
  rfl

end SourceText

namespace TokenTable

def heading (inner : Area) : Drawing :=
  fill ⟨inner.left, inner.top, inner.width, 1⟩ Theme.heading ++
    row inner inner.top ⟨"Token Type", .plain⟩ ⟨"Value", .plain⟩

/-- The pane with the tokens that were selected out of so many. -/
def showing (count : ℕ) (focused : Bool) (area : Area) (tokens : List Token) : Drawing :=
  frame area (" Tokens (" ++ toString count ++ ") ") (Theme.border focused) ++
    if area.inner.isEmpty then []
    else
      heading area.inner ++
        stacked (tokenRow area.inner) (area.inner.top + 1) (tokens.take (area.inner.height - 1))

theorem tokenRows_eq_stacked (inner : Area) (y rows : ℕ) (tokens : List Token) :
    tokenRows inner y rows tokens = stacked (tokenRow inner) y (tokens.take rows) :=
  eq_stacked (fun _ _ => rfl) (fun _ rows => by cases rows <;> rfl) (fun _ _ _ _ => rfl)
    y rows tokens

theorem draw_eq_showing {tokens : List Token} (h : tokens ≠ []) :
    draw tokens focused offset area = showing tokens.length focused area
      (page (settle tokens area offset) (pageHeight area) tokens) := by
  simp only [draw, List.isEmpty_iff, if_neg h, showing, table, tokenRows_eq_stacked, heading]

end TokenTable

namespace NameLists

def nameRow (inner : Area) (style : Style) (y : ℕ) (name : String) : Drawing :=
  fill ⟨inner.left, y, inner.width, 1⟩ style ++ lettering inner.left y inner.width [name.toList]

/-- One framed list with the names that were selected out of so many. -/
def listShowing (title plural : String) (count : ℕ) (style : Style) (focused : Bool) (area : Area)
    (names : List String) : Drawing :=
  let title := " " ++ title ++ " (" ++ toString count ++ ") "
  let border := Theme.border focused
  if count = 0 then
    placeholder area title border ("No " ++ plural ++ " identified.") Theme.faint
  else
    frame area title border ++
      stacked (nameRow area.inner style) area.inner.top (names.take area.inner.height)

/-- The pane with the names that were selected. -/
def showing (table : SymbolTable) (focused : Bool) (area : Area) (left right : List String) :
    Drawing :=
  listShowing "Functions" "functions" table.functionNames.size Theme.functionName focused
      (area.splitColumns 50).1 left ++
    listShowing "Variables" "variables" table.variableNames.size Theme.variableName focused
      (area.splitColumns 50).2 right

theorem nameRows_eq_stacked (inner : Area) (style : Style) (y rows : ℕ) (names : List String) :
    nameRows inner style y rows names = stacked (nameRow inner style) y (names.take rows) :=
  eq_stacked (fun _ _ => rfl) (fun _ rows => by cases rows <;> rfl) (fun _ _ _ _ => rfl)
    y rows names

theorem list_eq_listShowing (title plural : String) (names : List String) (style : Style) :
    list title plural names style focused offset area =
      listShowing title plural names.length style focused area
        (page offset (visibleHeight area) names) := by
  simp only [list, listShowing, nameRows_eq_stacked, List.isEmpty_iff, List.length_eq_zero_iff]

theorem draw_eq_showing (table : SymbolTable) :
    draw table focused offset area = showing table focused area
      (page (settle table area offset) (visibleHeight area) table.functionNames.toList)
      (page (settle table area offset) (visibleHeight area) table.variableNames.toList) := by
  simp only [draw, list_eq_listShowing, Array.length_toList]
  rfl

end NameLists

end Pane

end SourceLens
