import SourceLens.Pane.Scroll
import SourceLens.Screen.Paragraph
import SourceLens.Theme

/-! # The pane of the function and variable names, side by side -/
namespace SourceLens.Pane.NameLists

/-- The offset at which both lists are drawn, which the longer one decides. -/
def settle (table : SymbolTable) (area : Area) (offset : Nat) : Nat :=
  clampOffset table.longest (visibleHeight area) offset

def nameRows (inner : Area) (style : Style) (y : Nat) : Nat → List String → Drawing
  | 0, _ => []
  | _, [] => []
  | rows + 1, name :: names =>
    Drawing.fill ⟨inner.left, y, inner.width, 1⟩ style ++
      Drawing.lettering inner.left y inner.width [name.toList] ++
      nameRows inner style (y + 1) rows names

/-- One framed list; `plural` is what its empty form says that there are none of. -/
def list (title plural : String) (names : List String) (style : Style) (focused : Bool)
    (offset : Nat) (area : Area) : Drawing :=
  let title := " " ++ title ++ " (" ++ toString names.length ++ ") "
  let border := Theme.border focused
  if names.isEmpty then
    Drawing.placeholder area title border ("No " ++ plural ++ " identified.") Theme.faint
  else
    Drawing.frame area title border ++
      nameRows area.inner style area.inner.top area.inner.height
        (page offset (visibleHeight area) names)

def draw (table : SymbolTable) (focused : Bool) (offset : Nat) (area : Area) : Drawing :=
  let offset := settle table area offset
  let (left, right) := area.splitColumns 50
  list "Functions" "functions" table.functionNames.toList Theme.functionName focused offset left ++
    list "Variables" "variables" table.variableNames.toList Theme.variableName focused offset right

end SourceLens.Pane.NameLists
