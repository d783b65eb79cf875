/-! # Rectangles of screen cells -/
namespace SourceLens

/-- The cells from a column and a row on, so many wide and high. -/
structure Area where
  left : Nat
  top : Nat
  width : Nat
  height : Nat
deriving DecidableEq, Repr

namespace Area

/-- The first column on the right of the area. -/
def right (a : Area) : Nat := a.left + a.width

def bottom (a : Area) : Nat := a.top + a.height

def isEmpty (a : Area) : Bool := a.width == 0 || a.height == 0

def Holds (a : Area) (x y : Nat) : Prop :=
  a.left ≤ x ∧ x < a.right ∧ a.top ≤ y ∧ y < a.bottom

instance (a : Area) (x y : Nat) : Decidable (a.Holds x y) := by
  unfold Holds; infer_instance

def inner (a : Area) : Area := ⟨a.left + 1, a.top + 1, a.width - 2, a.height - 2⟩

/-- A percentage of a length, a half rounded up. -/
def share (percent length : Nat) : Nat := (length * percent + 50) / 100

theorem share_le {percent : Nat} (h : percent ≤ 99) (length : Nat) :
    share percent length ≤ length := by
  unfold share
  have : length * percent ≤ length * 99 := Nat.mul_le_mul_left length h
  omega

def splitColumns (a : Area) (percent : Nat) : Area × Area :=
  let width := share percent a.width
  (⟨a.left, a.top, width, a.height⟩, ⟨a.left + width, a.top, a.width - width, a.height⟩)

def splitRows (a : Area) (percent : Nat) : Area × Area :=
  let height := share percent a.height
  (⟨a.left, a.top, a.width, height⟩, ⟨a.left, a.top + height, a.width, a.height - height⟩)

/-- All rows but so many at the bottom, and those, as far as there are so many. -/
def splitBottom (a : Area) (rows : Nat) : Area × Area :=
  let height := a.height - rows
  (⟨a.left, a.top, a.width, height⟩, ⟨a.left, a.top + height, a.width, a.height - height⟩)

/-- The columns and rows of the cells, row by row. -/
def positions (a : Area) : List (Nat × Nat) :=
  (List.range a.height).flatMap fun dy =>
    (List.range a.width).map fun dx => (a.left + dx, a.top + dy)

theorem mem_positions {a : Area} {x y : Nat} : (x, y) ∈ a.positions ↔ a.Holds x y := by
  simp only [positions, List.mem_flatMap, List.mem_range, List.mem_map, Prod.mk.injEq, Holds,
    right, bottom]
  constructor
  · rintro ⟨dy, hy, dx, hx, rfl, rfl⟩; omega
  · intro h; exact ⟨y - a.top, by omega, x - a.left, by omega, by omega, by omega⟩

end Area

end SourceLens
