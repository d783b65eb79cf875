import SourceLens.Screen.Drawing

/-! # Screens of cells -/
namespace SourceLens

structure Screen where
  width : Nat
  height : Nat
  cells : Array Cell
  size_cells : cells.size = width * height
deriving DecidableEq

namespace Screen

def blank (width height : Nat) : Screen :=
  ⟨width, height, Array.replicate (width * height) {}, Array.size_replicate⟩

def cellLimit : Nat := 65535

/-- The whole part of the square root of a number below `2 ^ 32`, bit by bit. -/
def root (n : Nat) : Nat :=
  (List.range 16).reverse.foldl (fun r bit =>
    let next := r + 1 <<< bit
    if next * next ≤ n then next else r) 0

/-- The size of the screen for a window. A window of too many cells gets a smaller screen of the
same proportions. -/
def fit (width height : Nat) : Nat × Nat :=
  if cellLimit < width * height then
    (root (cellLimit * width / height), root (cellLimit * height / width))
  else (width, height)

def area (s : Screen) : Area := ⟨0, 0, s.width, s.height⟩

/-- Makes a stroke; one that lies outside of the screen does nothing. -/
def stroke (s : Screen) (t : Stroke) : Screen :=
  if t.x < s.width ∧ t.y < s.height then
    ⟨s.width, s.height, s.cells.modify (t.y * s.width + t.x) t.mark.apply, by
      rw [Array.size_modify, s.size_cells]⟩
  else s

def paint (s : Screen) (drawing : Drawing) : Screen := drawing.foldl stroke s

def cell? (s : Screen) (x y : Nat) : Option Cell :=
  if x < s.width then s.cells[y * s.width + x]? else none

/-- The cells of a row as they are seen, the first one hidden or not: a symbol of two columns or
more hides the cell behind its own. -/
def visible (hidden : Bool) : List Cell → List Cell
  | [] => []
  | cell :: cells => (if hidden then {} else cell) :: visible (2 ≤ cell.columns) cells

def row (s : Screen) (y : Nat) : List Cell :=
  (List.range s.width).filterMap fun x => s.cell? x y

def rows (s : Screen) : List (List Cell) :=
  (List.range s.height).map fun y => visible false (s.row y)

def rowText (row : List Cell) : String := String.join (row.map fun cell => cell.symbol)

end Screen

end SourceLens
