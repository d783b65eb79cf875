import SourceLens.Screen.Drawing

/-! # Paragraphs of styled text -/
namespace SourceLens

structure Span where
  text : String
  style : Style := {}
deriving DecidableEq, Repr

abbrev Line := List Span

abbrev Glyph := List Char × Style

def Glyph.columns (g : Glyph) : Nat := Text.columnsOf g.1

/-- The clusters of a line with their styles; no cluster reaches from one span into the next. -/
def Line.glyphs (line : Line) : List Glyph :=
  line.flatMap fun span => (Text.clusters span.text.toList).map fun g => (g, span.style)

inductive Alignment
  | left | right
deriving DecidableEq, Repr

namespace Drawing

/-- The glyphs that a line of some width shows, with `room` columns of it left: the line is cut
before the first glyph without room, and one wider than the whole line is passed over. -/
def fitting (width : Nat) : Nat → List Glyph → List Glyph
  | _, [] => []
  | room, g :: glyphs =>
    if width < g.columns then fitting width room glyphs
    else if room < g.columns then []
    else g :: fitting width (room - g.columns) glyphs

def glyphColumns : List Glyph → Nat
  | [] => 0
  | g :: glyphs => g.columns + glyphColumns glyphs

/-- A glyph on the first of its columns; one without columns is not shown. -/
def glyph (x y : Nat) (g : Glyph) : Drawing :=
  if g.columns = 0 then [] else [⟨x, y, .glyph (String.ofList g.1) g.2⟩]

def glyphRow (x y : Nat) : List Glyph → Drawing
  | [] => []
  | g :: glyphs => glyph x y g ++ glyphRow (x + g.columns) y glyphs

def lineRows (area : Area) (alignment : Alignment) (y : Nat) : Nat → List Line → Drawing
  | 0, _ => []
  | _, [] => []
  | rows + 1, line :: lines =>
    let glyphs := fitting area.width area.width line.glyphs
    let x :=
      match alignment with
      | .left => area.left
      | .right => area.left + (area.width - glyphColumns glyphs)
    glyphRow x y glyphs ++ lineRows area alignment (y + 1) rows lines

/-- Lines at the top of an area, without any wrapping. -/
def paragraph (area : Area) (alignment : Alignment) (lines : List Line) : Drawing :=
  lineRows area alignment area.top area.height lines

/-- A framed area that holds one line of text instead of its content, in a style that lies under
the frame too. -/
def placeholder (area : Area) (title : String) (border : Style) (text : String) (style : Style) :
    Drawing :=
  fill area style ++ frame area title border ++ paragraph area.inner .left [[⟨text, style⟩]]

end Drawing

end SourceLens
