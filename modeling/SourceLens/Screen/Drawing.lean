import SourceLens.Screen.Area
import SourceLens.Screen.Style
import SourceLens.Text.Cluster
import SourceLens.Text.Measure
import SourceLens.Text.Split

/-! # Drawings: strokes on the cells of a screen -/
namespace SourceLens

structure Cell where
  symbol : String := " "
  style : Style := {}
deriving DecidableEq, Repr

/-- The columns that the symbol takes; those beyond the first lie on the cells behind. -/
def Cell.columns (cell : Cell) : Nat := Text.columnsOf cell.symbol.toList

inductive Mark
  | glyph (symbol : String) (style : Style)
  | join (symbol : String)
  | tint (style : Style)
  | reset
deriving DecidableEq, Repr

def Mark.apply : Mark → Cell → Cell
  | glyph symbol style, cell => ⟨symbol, cell.style.patch style⟩
  | join symbol, cell => { cell with symbol := cell.symbol ++ symbol }
  | tint style, cell => { cell with style := cell.style.patch style }
  | reset, _ => {}

structure Stroke where
  x : Nat
  y : Nat
  mark : Mark
deriving DecidableEq, Repr

/-- Strokes in the order in which they are made. -/
abbrev Drawing := List Stroke

namespace Drawing

def fill (area : Area) (style : Style) : Drawing :=
  area.positions.map fun (x, y) => ⟨x, y, .tint style⟩

def erase (x y count : Nat) : Drawing :=
  (List.range count).map fun dx => ⟨x + dx, y, .reset⟩

/-- The clusters of a word from `x` on, which lies behind its first cluster. The word began in the
column `left` and its room ends before `right`. The word is cut before the first cluster without
room, and a wide cluster empties the cells behind its first one. A cluster without columns joins the
cell before it; at the start of a word such clusters share a cell with the first one that has
columns. -/
def letters (left y right x : Nat) : List (List Char) → Drawing
  | [] => []
  | g :: clusters =>
    let symbol := String.ofList g
    let width := Text.columnsOf g
    if right < x + width then []
    else
      (if x = left then ⟨x, y, .join symbol⟩
        else if width = 0 then ⟨x - 1, y, .join symbol⟩
        else ⟨x, y, .glyph symbol .plain⟩) ::
      erase (x + 1) y (width - 1) ++ letters left y right (x + width) clusters

def word (x y room : Nat) (text : List Char) : Drawing :=
  match Text.clusters text with
  | [] => []
  | g :: clusters =>
    let width := Text.columnsOf g
    if room < width then []
    else
      ⟨x, y, .glyph (String.ofList g) .plain⟩ :: erase (x + 1) y (width - 1) ++
        letters x y (x + room) (x + width) clusters

/-- Words one behind the other. One that takes no columns is not shown. -/
def lettering (x y : Nat) : Nat → List (List Char) → Drawing
  | _, [] => []
  | room, text :: words =>
    let width := Text.columnsOf text
    if room = 0 then []
    else if width = 0 then lettering x y room words
    else word x y room text ++ lettering (x + width) y (room - width) words

def columnOf (area : Area) (x : Nat) (symbol : String) (style : Style) : Drawing :=
  (List.range area.height).map fun dy => ⟨x, area.top + dy, .glyph symbol style⟩

def rowOf (area : Area) (y : Nat) (symbol : String) (style : Style) : Drawing :=
  (List.range area.width).map fun dx => ⟨area.left + dx, y, .glyph symbol style⟩

/-- A border around an area with a title in its upper edge, the lines of the title one behind the
other in no more columns than they take. Edges come before corners and the upper left corner comes
last, which tells in an area of one column or one row. -/
def frame (area : Area) (title : String) (style : Style) : Drawing :=
  if area.isEmpty then []
  else
    let lastColumn := area.right - 1
    let lastRow := area.bottom - 1
    let lines := Text.lines title.toList
    let columns := lines.foldr (fun line columns => Text.columnsOf line + columns) 0
    let room := min (area.width - 2) columns
    columnOf area area.left "│" style ++ rowOf area area.top "─" style ++
      columnOf area lastColumn "│" style ++ rowOf area lastRow "─" style ++
      [⟨lastColumn, lastRow, .glyph "┘" style⟩, ⟨lastColumn, area.top, .glyph "┐" style⟩,
        ⟨area.left, lastRow, .glyph "└" style⟩, ⟨area.left, area.top, .glyph "┌" style⟩] ++
      lettering (area.left + 1) area.top room lines

end Drawing

end SourceLens
