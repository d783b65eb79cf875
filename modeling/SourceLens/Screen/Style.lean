/-! # Colours and styles of screen cells -/
namespace SourceLens

inductive Color
  | black
  | rgb (red green blue : UInt8)
deriving DecidableEq, Repr

/-- The part of a cell's look that a text sets: what is `none` or `false` is left as it is. -/
structure Style where
  fg : Option Color := none
  bg : Option Color := none
  bold : Bool := false
  italic : Bool := false
  underlined : Bool := false
deriving DecidableEq, Repr

namespace Style

def plain : Style := {}

/-- The style of one over another: its colours win, and the modifiers of both hold. -/
def patch (base upper : Style) : Style where
  fg := upper.fg.or base.fg
  bg := upper.bg.or base.bg
  bold := base.bold || upper.bold
  italic := base.italic || upper.italic
  underlined := base.underlined || upper.underlined

end Style

end SourceLens
