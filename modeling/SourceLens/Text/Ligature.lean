import SourceLens.Text.Columns

/-! # Letters that are written as one

In some scripts two letters take less room than each by itself. A text is measured from its end, so
a `LetterTail` says which letter the text behind a place begins with, and `LetterTail.extend?` puts
one more character before it. -/
namespace SourceLens.Text

def alefs : List CharRange := [
    (0x0622, 0x0623), (0x0625, 0x0625), (0x0627, 0x0627), (0x0671, 0x0673), (0x0675, 0x0675),
    (0x0773, 0x0774), (0x0870, 0x0882)]

def lams : List CharRange := [
    (0x0644, 0x0644), (0x06B5, 0x06B8), (0x076A, 0x076A), (0x08A6, 0x08A6), (0x08C7, 0x08C7)]

/-- Khmer letters that have a subscript form. -/
def subscriptLetters : List CharRange := [
    (0x1780, 0x1782), (0x1784, 0x1787), (0x1789, 0x178C), (0x178E, 0x1793), (0x1795, 0x1798),
    (0x179B, 0x179D), (0x17A0, 0x17A0), (0x17A2, 0x17A2), (0x17A7, 0x17A7), (0x17AB, 0x17AC),
    (0x17AF, 0x17AF)]

def tifinaghConsonants : List CharRange := [(0x2D31, 0x2D65), (0x2D6F, 0x2D6F)]

def firstTones : List CharRange := [(0xA4F8, 0xA4FB)]

def secondTones : List CharRange := [(0xA4FC, 0xA4FD)]

/-- Signs that select a form or an order of the letters around them and are not seen. -/
def formSigns : List CharRange := [
    (0x034F, 0x034F), (0x17B4, 0x17B5), (0x180B, 0x180D), (0x180F, 0x180F), (0x200D, 0x200D),
    (0xFE00, 0xFE0F), (0xE0100, 0xE01EF)]

/-- Characters without columns that part an Arabic letter from the next. -/
def partingSigns : List CharRange := [
    (0x0605, 0x0605), (0x0890, 0x0891), (0x08E2, 0x08E2), (0x09BE, 0x09BE), (0x09D7, 0x09D7),
    (0x0B3E, 0x0B3E), (0x0B57, 0x0B57), (0x0BBE, 0x0BBE), (0x0BD7, 0x0BD7), (0x0CC0, 0x0CC0),
    (0x0CC2, 0x0CC2), (0x0CC7, 0x0CC8), (0x0CCA, 0x0CCB), (0x0CD5, 0x0CD6), (0x0D3E, 0x0D3E),
    (0x0D4E, 0x0D4E), (0x0D57, 0x0D57), (0x0DCF, 0x0DCF), (0x0DDF, 0x0DDF), (0x1160, 0x11FF),
    (0x180E, 0x180E), (0x1B35, 0x1B35), (0x1B3B, 0x1B3B), (0x1B3D, 0x1B3D), (0x1B43, 0x1B43),
    (0x200C, 0x200D), (0x2065, 0x2069), (0x302E, 0x302F), (0x3164, 0x3164), (0xA8FA, 0xA8FA),
    (0xD7B0, 0xD7C6), (0xD7CB, 0xD7FB), (0xFF9E, 0xFFA0), (0xFFF0, 0xFFF8), (0x111C2, 0x111C3),
    (0x1133E, 0x1133E), (0x11357, 0x11357), (0x114B0, 0x114B0), (0x114BD, 0x114BD),
    (0x115AF, 0x115AF), (0x11930, 0x11930), (0x1193F, 0x1193F), (0x11941, 0x11941),
    (0x11A3A, 0x11A3A), (0x11A84, 0x11A89), (0x11D46, 0x11D46), (0x11F02, 0x11F02),
    (0x1D165, 0x1D165), (0x1D16E, 0x1D172), (0xE0000, 0xE0000), (0xE0002, 0xE001F),
    (0xE0080, 0xE00FF), (0xE01F0, 0xE0FFF)]

/-- A letter behind a place in a text that may be written as one with letters before that place. In
some scripts a joiner must stand between them. -/
inductive LetterTail
  | alef
  | lamed (joined : Bool)
  | ya (joined : Bool)
  /-- A Buginese ya with the vowel i before a joiner. -/
  | yaVowel
  | consonant (joined : Bool)
  /-- A Tifinagh consonant with the sign for a joint before it. -/
  | jointConsonant
  | tone
  | orkhonI (joined : Bool)
  | subscriptLetter
deriving DecidableEq, Repr

namespace LetterTail

def join : LetterTail → LetterTail
  | lamed _ => lamed true
  | ya _ => ya true
  | consonant _ => consonant true
  | orkhonI _ => orkhonI true
  | letter => letter

/-- The character does not part the letter from one before it. -/
def passes (c : Char) : LetterTail → Bool
  | alef => inRanges columnlessRanges c && !inRanges partingSigns c
  | _ => inRanges formSigns c

/-- A letter before the tail that is written as one with it, with what may be written as one with
both and the columns of both, where the tail takes `columns`. -/
def ligate? (c : Char) (columns : Nat) : LetterTail → Option (Nat × Option LetterTail)
  | alef => if inRanges lams c then some (columns, none) else none
  | lamed joined => if joined ∧ c = 'א' then some (columns, none) else none
  | ya joined => if joined ∧ c = '\u1a17' then some (columns, some yaVowel) else none
  | yaVowel => if c = '\u1a15' then some (columns, none) else none
  | consonant joined =>
    if c = '\u2d7f' then some (columns + 1, some jointConsonant)
    else if joined ∧ inRanges tifinaghConsonants c then some (columns, none)
    else none
  | jointConsonant => if inRanges tifinaghConsonants c then some (columns - 1, none) else none
  | tone => if inRanges firstTones c then some (columns, none) else none
  | orkhonI joined => if joined ∧ c.toNat = 0x10C32 then some (columns, none) else none
  | subscriptLetter => if c = '\u17d2' then some (columns - 1, none) else none

/-- The tail with one more character before it; none if the character is not written as one with
it and parts it from all before. -/
def extend? (c : Char) (columns : Nat) (tail : LetterTail) : Option (Nat × Option LetterTail) :=
  if tail.passes c then some (columns, some (if c = '\u200d' then tail.join else tail))
  else tail.ligate? c columns

def ofChar? (c : Char) : Option LetterTail :=
  if inRanges alefs c then some alef
  else if c = 'ל' then some (lamed false)
  else if c = '\u1a10' then some (ya false)
  else if inRanges tifinaghConsonants c then some (consonant false)
  else if inRanges secondTones c then some tone
  else if c.toNat = 0x10C03 then some (orkhonI false)
  else if inRanges subscriptLetters c then some subscriptLetter
  else none

end LetterTail

end SourceLens.Text
