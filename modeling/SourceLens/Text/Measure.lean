import SourceLens.Text.Emoji
import SourceLens.Text.Ligature

/-! # The columns of a text

The characters of a text are put before one another, from its end to its start. What the text behind
a character begins with may change the columns that the character adds: it may belong to a line end,
to an emoji sequence or to a letter it is written as one with, or be an emoji with a selector. -/
namespace SourceLens.Text

/-- How an emoji is to be drawn, by the sign behind it. -/
inductive Selector
  | text | picture
deriving DecidableEq, Repr

/-- What a text begins with, as far as a character before it may belong to it. -/
inductive TextHead
  | plain | lineFeed
  | emoji (tail : EmojiTail)
  | letter (tail : LetterTail)
deriving DecidableEq, Repr

namespace TextHead

def ofChar (c : Char) : TextHead :=
  match LetterTail.ofChar? c, EmojiTail.ofChar? c with
  | some tail, _ => letter tail
  | none, some tail => emoji tail
  | none, none => plain

/-- What the head still joins through a selector. -/
def behind : Selector → TextHead → TextHead
  | _, letter tail => letter tail
  | .picture, emoji tail => if tail.joinsPicture then emoji tail else plain
  | _, _ => plain

def joinsPicture : TextHead → Bool
  | emoji tail => tail.joinsPicture
  | _ => false

/-- The head with one more character before it and the columns of both, where the text takes
`columns`; none if the character does not belong to the head. -/
def extend? (c : Char) (columns : Nat) : TextHead → Option (Nat × TextHead)
  | plain | lineFeed => none
  | emoji tail => (tail.extend? c columns).map fun (columns, tail) => (columns, emoji tail)
  | letter tail =>
    (tail.extend? c columns).map fun (columns, tail) => (columns, tail.elim plain letter)

end TextHead

/-- What is known of a text measured from its end: its columns, what it begins with, and the
selector before that. -/
structure Measure where
  columns : Nat := 0
  head : TextHead := .plain
  selector : Option Selector := none
deriving DecidableEq, Repr

namespace Measure

/-- The head for a character that the selector does not change. -/
def openHead (m : Measure) : TextHead :=
  if m.selector.isSome then m.head.behind .text else m.head

/-- The measure with a character before the text that takes one column, or none as part of a line
end. -/
def pushNarrow (c : Char) (m : Measure) : Measure :=
  if c = '\n' then ⟨m.columns, .lineFeed, none⟩
  else if c = '\r' ∧ m.head = .lineFeed then ⟨m.columns, .plain, none⟩
  else ⟨m.columns + 1, .plain, none⟩

/-- The measure with a character before the text, where no selector takes part. -/
def pushWide (c : Char) (m : Measure) : Measure :=
  match m.openHead.extend? c m.columns with
  | some (columns, head) => ⟨columns, head, none⟩
  | none => ⟨m.columns + Text.columns c, .ofChar c, none⟩

def push (c : Char) (m : Measure) : Measure :=
  if m.selector = some .picture ∧ takesPicture c then
    ⟨m.columns + (if m.head.joinsPicture then 0 else 2), .emoji .emoji, none⟩
  else if c.toNat ≤ 0xA0 then m.pushNarrow c
  else if c = '\ufe0f' then ⟨m.columns, m.openHead.behind .picture, some .picture⟩
  else if c = '\ufe0e' then ⟨m.columns, m.openHead.behind .text, some .text⟩
  else if m.selector = some .text ∧ takesText c then ⟨m.columns + 1, .plain, none⟩
  else m.pushWide c

def ofText (s : List Char) : Measure := s.foldr push {}

end Measure

def columnsOf (s : List Char) : Nat := (Measure.ofText s).columns

end SourceLens.Text
