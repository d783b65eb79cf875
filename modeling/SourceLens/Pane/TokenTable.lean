import SourceLens.Pane.Scroll
import SourceLens.Screen.Paragraph
import SourceLens.Theme

/-! # The pane of the token table -/
namespace SourceLens.Pane.TokenTable

/-- The style of a kind's label; white space, which the source text leaves unstyled, is faint. -/
def labelStyle (kind : TokenKind) : Style :=
  if kind = .whitespace then Theme.faint else Theme.kindStyle kind

def pageHeight (area : Area) : Nat := max (visibleHeight area - 1) 1

def settle (tokens : List Token) (area : Area) (offset : Nat) : Nat :=
  if tokens.isEmpty then offset else clampOffset tokens.length (pageHeight area) offset

/-- The width of the column of labels: twelve, or less to leave two columns for the rest. -/
def labelWidth (inner : Area) : Nat := min 12 (inner.width - 2)

/-- A row of two cells with a blank column between them. A cell's style fills its column. -/
def row (inner : Area) (y : Nat) (label value : Span) : Drawing :=
  let width := labelWidth inner
  let valueLeft := inner.left + width + 1
  let valueWidth := inner.width - width - 1
  Drawing.fill ⟨inner.left, y, width, 1⟩ label.style ++
    Drawing.lettering inner.left y width [label.text.toList] ++
    Drawing.fill ⟨valueLeft, y, valueWidth, 1⟩ value.style ++
    Drawing.lettering valueLeft y valueWidth [value.text.toList]

def tokenRow (inner : Area) (y : Nat) (t : Token) : Drawing :=
  row inner y ⟨t.kind.label, labelStyle t.kind⟩ ⟨t.displayValue, Theme.text⟩

def tokenRows (inner : Area) (y : Nat) : Nat → List Token → Drawing
  | 0, _ => []
  | _, [] => []
  | rows + 1, t :: tokens => tokenRow inner y t ++ tokenRows inner (y + 1) rows tokens

def table (inner : Area) (tokens : List Token) : Drawing :=
  if inner.isEmpty then []
  else
    Drawing.fill ⟨inner.left, inner.top, inner.width, 1⟩ Theme.heading ++
      row inner inner.top ⟨"Token Type", .plain⟩ ⟨"Value", .plain⟩ ++
      tokenRows inner (inner.top + 1) (inner.height - 1) tokens

def draw (tokens : List Token) (focused : Bool) (offset : Nat) (area : Area) : Drawing :=
  let title := " Tokens (" ++ toString tokens.length ++ ") "
  let border := Theme.border focused
  if tokens.isEmpty then Drawing.placeholder area title border "(no tokens)" Theme.faint
  else
    Drawing.frame area title border ++
      table area.inner (page (settle tokens area offset) (pageHeight area) tokens)

end SourceLens.Pane.TokenTable
