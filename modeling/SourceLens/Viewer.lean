import SourceLens.Pane.Legend
import SourceLens.Pane.NameLists
import SourceLens.Pane.SourceText
import SourceLens.Pane.StatusBar
import SourceLens.Pane.TokenTable
import SourceLens.Sample
import SourceLens.Screen

/-! # The viewer: its state, its keys and its screen -/
namespace SourceLens

/-- A pane that keys can go to. -/
inductive Focus
  | source | tokens | symbols
deriving DecidableEq, Repr

namespace Focus

def next : Focus → Focus
  | source => tokens
  | tokens => symbols
  | symbols => source

def previous : Focus → Focus
  | source => symbols
  | tokens => source
  | symbols => tokens

def name : Focus → String
  | source => "source"
  | tokens => "tokens"
  | symbols => "symbols"

end Focus

/-- Where a text comes from. The sample changes with the language, a file does not. -/
inductive Origin
  | sample
  | file (path : String)
deriving DecidableEq, Repr

/-- A key; those without a name of their own here are `other`. -/
inductive Key
  | char (c : Char)
  | tab | backTab | up | down | left | right | pageUp | pageDown | home | endKey
  | escape | enter | backspace
  | function (number : Nat)
  | other
deriving DecidableEq, Repr

structure Offsets where
  source : Nat := 0
  tokens : Nat := 0
  symbols : Nat := 0
deriving DecidableEq, Repr

namespace Offsets

def get (o : Offsets) : Focus → Nat
  | .source => o.source
  | .tokens => o.tokens
  | .symbols => o.symbols

def modify (o : Offsets) (f : Nat → Nat) : Focus → Offsets
  | .source => { o with source := f o.source }
  | .tokens => { o with tokens := f o.tokens }
  | .symbols => { o with symbols := f o.symbols }

def limit : Nat := UInt64.size - 1

/-- An offset moved down, not beyond the limit. -/
def forward (step offset : Nat) : Nat := min (offset + step) limit

end Offsets

structure Viewer where
  source : String
  origin : Origin
  analysis : Analysis
  focus : Focus := .source
  offsets : Offsets := {}
  quitting : Bool := false
  message : String := "Ready!"
deriving DecidableEq, Repr

namespace Viewer

def start (source : String) (origin : Origin) (language : Language) : Viewer :=
  { source, origin, analysis := analyze source language }

def ofSample (language : Language) : Viewer := start language.sample .sample language

def language (v : Viewer) : Language := v.analysis.language

/-- Goes to the other language and back to the start of each pane. -/
def switchLanguage (v : Viewer) : Viewer :=
  let language := v.language.other
  let source := if v.origin = .sample then language.sample else v.source
  { v with
    source
    analysis := analyze source language
    offsets := {}
    message := "Switched to " ++ language.name }

def scroll (v : Viewer) (f : Nat → Nat) : Viewer :=
  { v with offsets := v.offsets.modify f v.focus }

def pageStep : Nat := 10

/-- The state after a key. Offsets beyond the last page are left for `render` to mend. -/
def press (v : Viewer) : Key → Viewer
  | .char c =>
    if c = 'q' ∨ c = 'Q' then { v with quitting := true }
    else if c = 'l' ∨ c = 'L' then v.switchLanguage
    else v
  | .escape => { v with quitting := true }
  | .tab => { v with focus := v.focus.next }
  | .backTab => { v with focus := v.focus.previous }
  | .up => v.scroll (· - 1)
  | .down => v.scroll (Offsets.forward 1)
  | .pageUp => v.scroll (· - pageStep)
  | .pageDown => v.scroll (Offsets.forward pageStep)
  | .home => v.scroll fun _ => 0
  | .endKey => v.scroll fun _ => Offsets.limit
  | .left | .right | .enter | .backspace | .function _ | .other => v

structure Layout where
  source : Area
  symbols : Area
  tokens : Area
  legend : Area
  status : Area
deriving DecidableEq, Repr

/-- The panes of a screen: the status bar in the last row; above it the source over the symbols on
the left, and the tokens over the legend on the right. -/
def Layout.of (screen : Area) : Layout :=
  let (panes, status) := screen.splitBottom 1
  let (left, right) := panes.splitColumns 60
  let (source, symbols) := left.splitRows 65
  let (tokens, legend) := right.splitBottom 9
  { source, symbols, tokens, legend, status }

def title (v : Viewer) : String :=
  let subject :=
    match v.origin with
    | .sample => "Sample"
    | .file path => path
  subject ++ " (" ++ v.language.name ++ ")"

def draw (v : Viewer) (layout : Layout) : Drawing :=
  Pane.SourceText.draw v.analysis v.title (v.focus == .source) v.offsets.source layout.source ++
    Pane.NameLists.draw v.analysis.symbols (v.focus == .symbols) v.offsets.symbols
      layout.symbols ++
    Pane.TokenTable.draw v.analysis.tokens (v.focus == .tokens) v.offsets.tokens layout.tokens ++
    Pane.Legend.draw v.language layout.legend ++
    Pane.StatusBar.draw v.analysis v.message layout.status

def settle (v : Viewer) (layout : Layout) : Offsets where
  source := Pane.SourceText.settle v.analysis layout.source v.offsets.source
  tokens := Pane.TokenTable.settle v.analysis.tokens layout.tokens v.offsets.tokens
  symbols := Pane.NameLists.settle v.analysis.symbols layout.symbols v.offsets.symbols

/-- Draws the viewer on a fresh screen; its offsets become those at which it was drawn. -/
def render (v : Viewer) (width height : Nat) : Viewer × Screen :=
  let screen := Screen.blank width height
  let layout := Layout.of screen.area
  ({ v with offsets := v.settle layout }, screen.paint (v.draw layout))

end Viewer

end SourceLens
