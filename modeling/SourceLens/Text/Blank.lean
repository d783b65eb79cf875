import SourceLens.Text.CharRange
import SourceLens.Text.Split

/-! # White space -/
namespace SourceLens.Text

/-- Unicode's `White_Space` property. -/
def blankRanges : List CharRange := [
    (0x0009, 0x000D), (0x0020, 0x0020), (0x0085, 0x0085), (0x00A0, 0x00A0), (0x1680, 0x1680),
    (0x2000, 0x200A), (0x2028, 0x2029), (0x202F, 0x202F), (0x205F, 0x205F), (0x3000, 0x3000)]

def isBlank (c : Char) : Bool := inRanges blankRanges c

/-- White space in source text: a byte order mark counts, a next-line control does not. -/
def isSourceBlank (c : Char) : Bool :=
  (isBlank c && c != '\u0085') || c == '\ufeff'

def trim (s : List Char) : List Char := dropTrailing isBlank (s.dropWhile isBlank)

end SourceLens.Text
