import SourceLens.Screen.Style
import SourceLens.Symbol.Table
import SourceLens.Token

/-! # The colours of the viewer -/
namespace SourceLens.Theme

def foreground : Color := .rgb 0xcd 0xd6 0xf4
def blue : Color := .rgb 0x89 0xb4 0xfa
def orange : Color := .rgb 0xfa 0xb3 0x87
def grey : Color := .rgb 0x6c 0x70 0x86
def green : Color := .rgb 0xa6 0xe3 0xa1
def red : Color := .rgb 0xf3 0x8b 0xa8
def purple : Color := .rgb 0xcb 0xa6 0xf7
def teal : Color := .rgb 0x94 0xe2 0xd5
def yellow : Color := .rgb 0xf9 0xe2 0xaf
def pink : Color := .rgb 0xf5 0xc2 0xe7
def slate : Color := .rgb 0x32 0x32 0x46

def text : Style := { fg := some foreground }

def faint : Style := { fg := some grey }

def functionName : Style := { fg := some yellow }

def variableName : Style := { fg := some pink }

def heading : Style := { fg := some blue, bold := true }

def bar : Style := { bg := some slate }

def kindStyle : TokenKind → Style
  | .keyword => { fg := some blue, bold := true }
  | .identifier => text
  | .string => { fg := some green }
  | .comment => { fg := some grey, italic := true }
  | .operator => { fg := some teal }
  | .number => { fg := some purple }
  | .whitespace => .plain
  | .unknown => { fg := some red, underlined := true }

/-- The style of a token: that of its kind, but an identifier in a table has the style of a
function's name, or else of a variable's. -/
def tokenStyle (table : SymbolTable) (t : Token) : Style :=
  if t.kind = .identifier ∧ table.hasFunction t.text then functionName
  else if t.kind = .identifier ∧ table.hasVariable t.text then variableName
  else kindStyle t.kind

def border (focused : Bool) : Style :=
  if focused then { fg := some yellow, bold := true } else faint

end SourceLens.Theme
