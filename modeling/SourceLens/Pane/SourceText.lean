import SourceLens.Analysis
import SourceLens.Pane.Scroll
import SourceLens.Screen.Paragraph
import SourceLens.Text.Pad
import SourceLens.Theme

/-! # The pane of the source text

The text is drawn from its tokens, so what is highlighted is what was cut. -/
namespace SourceLens.Pane.SourceText

inductive Piece
  | span (span : Span)
  | lineEnd
deriving DecidableEq, Repr

def expandTabs (s : List Char) : List Char :=
  s.flatMap fun c => if c = '\t' then [' ', ' ', ' ', ' '] else [c]

/-- The span of one segment without the carriage returns at its end; an empty one gives none. -/
def segmentPieces (style : Style) (segment : List Char) : List Piece :=
  match expandTabs (Text.dropTrailing (· == '\r') segment) with
  | [] => []
  | shown => [.span ⟨String.ofList shown, style⟩]

def piecesOf (style : Style) : List (List Char) → List Piece
  | [] => []
  | [segment] => segmentPieces style segment
  | segment :: rest => segmentPieces style segment ++ .lineEnd :: piecesOf style rest

def tokenPieces (table : SymbolTable) (t : Token) : List Piece :=
  piecesOf (Theme.tokenStyle table t) (Text.parts '\n' t.text.toList)

/-- Pieces as lines; there is at least one. -/
def layLines : List Piece → List Line
  | [] => [[]]
  | .lineEnd :: pieces => [] :: layLines pieces
  | .span s :: pieces =>
    match layLines pieces with
    | [] => [[s]]
    | line :: lines => (s :: line) :: lines

/-- Lines without the last one if it is empty and not the only one. -/
def dropBlankEnd (lines : List Line) : List Line :=
  match lines.reverse with
  | [] :: line :: before => (line :: before).reverse
  | _ => lines

def highlight (tokens : List Token) (table : SymbolTable) : List Line :=
  dropBlankEnd (layLines (tokens.flatMap (tokenPieces table)))

def lineNumber (n : Nat) : Span := ⟨Text.padLeft 4 (toString n) ++ " ", Theme.faint⟩

/-- The offset at which the pane is drawn; an empty text has nothing to scroll. -/
def settle (analysis : Analysis) (area : Area) (offset : Nat) : Nat :=
  if analysis.tokens.isEmpty then offset
  else clampOffset (highlight analysis.tokens analysis.symbols).length (visibleHeight area) offset

def numberedPage (analysis : Analysis) (area : Area) (offset : Nat) : List Line :=
  page (settle analysis area offset) (visibleHeight area)
    ((highlight analysis.tokens analysis.symbols).mapIdx fun i line => lineNumber (i + 1) :: line)

def draw (analysis : Analysis) (title : String) (focused : Bool) (offset : Nat) (area : Area) :
    Drawing :=
  let title := " " ++ title ++ " "
  let border := Theme.border focused
  if analysis.tokens.isEmpty then
    Drawing.placeholder area title border "(empty source)" Theme.faint
  else
    Drawing.frame area title border ++
      Drawing.paragraph area.inner .left (numberedPage analysis area offset)

end SourceLens.Pane.SourceText
