import SourceLens.Analysis
import SourceLens.Screen.Paragraph
import SourceLens.Theme

/-! # The status bar -/
namespace SourceLens.Pane.StatusBar

def onBar (color : Color) : Style := Theme.bar.patch { fg := some color }

def badge (language : Language) : Style :=
  let background :=
    match language with
    | .cLike => Theme.blue
    | .python => Theme.green
  { fg := some .black, bg := some background, bold := true }

def keyStyle : Style := { fg := some .black, bg := some Theme.grey }

def summary (analysis : Analysis) (message : String) : Line :=
  let counts :=
    " " ++ toString analysis.tokens.length ++ " tokens, " ++
      toString analysis.symbols.functionNames.size ++ " functions, " ++
      toString analysis.symbols.variableNames.size ++ " variables "
  [⟨" " ++ analysis.language.name ++ " ", badge analysis.language⟩,
    ⟨counts, onBar Theme.foreground⟩,
    ⟨"|", onBar Theme.grey⟩,
    ⟨" " ++ message ++ " ", onBar Theme.orange⟩]

def keys : List (String × String) :=
  [("⇥", "focus"), ("↑/↓", "scroll"), ("l", "language"), ("q", "quit")]

def keyHelp (key action : String) : Line :=
  [⟨" " ++ key ++ " ", keyStyle⟩, ⟨" " ++ action ++ " ", onBar Theme.foreground⟩]

def help : Line :=
  (keys.map fun (key, action) => keyHelp key action).intersperse [⟨"│", onBar Theme.grey⟩]
    |>.flatten

/-- The bar: the summary on the left half, the help at the end of the right half. -/
def draw (analysis : Analysis) (message : String) (area : Area) : Drawing :=
  let (left, right) := area.splitColumns 50
  Drawing.fill left Theme.bar ++ Drawing.paragraph left .left [summary analysis message] ++
    Drawing.fill right Theme.bar ++ Drawing.paragraph right .right [help]

end SourceLens.Pane.StatusBar
