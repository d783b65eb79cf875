import SourceLens.Screen.Area

/-! # Scrolling in a framed pane -/
namespace SourceLens.Pane

def visibleHeight (area : Area) : Nat := max (area.height - 2) 1

/-- The offset closest to the wanted one that keeps the last page full; without a second page it
is zero. -/
def clampOffset (total height offset : Nat) : Nat :=
  if height < total then min offset (total - height) else 0

theorem clampOffset_eq_min (total height offset : Nat) :
    clampOffset total height offset = min offset (total - height) := by
  unfold clampOffset; split <;> omega

def page {α : Type} (offset height : Nat) (items : List α) : List α :=
  (items.drop offset).take height

end SourceLens.Pane
