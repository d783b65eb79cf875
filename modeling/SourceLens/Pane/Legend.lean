import SourceLens.Language
import SourceLens.Screen.Paragraph
import SourceLens.Text.Pad
import SourceLens.Theme

/-! # The pane that explains the colours -/
namespace SourceLens.Pane.Legend

/-- A sample and a name for a kind of token; white space has none. -/
def entryOf? (language : Language) : TokenKind → Option (String × String)
  | .keyword => some ("keyword", "Keyword")
  | .identifier => some ("identifier", "Identifier / Default")
  | .string => some ("\"string\"", "String")
  | .comment =>
    match language with
    | .cLike => some ("// comment", "Comment")
    | .python => some ("# comment", "Comment")
  | .operator => some ("+", "Operator")
  | .number => some ("123", "Number")
  | .whitespace => none
  | .unknown => some ("@", "Unknown")

def entryLine (kind : TokenKind) (sample name : String) : Line :=
  [⟨Text.padRight 12 sample, Theme.kindStyle kind⟩, ⟨name, Theme.text⟩]

def lines (language : Language) : List Line :=
  TokenKind.all.filterMap fun kind =>
    (entryOf? language kind).map fun (sample, name) => entryLine kind sample name

def draw (language : Language) (area : Area) : Drawing :=
  Drawing.frame area " Legend " (Theme.border false) ++
    Drawing.paragraph area.inner .left (lines language)

end SourceLens.Pane.Legend
