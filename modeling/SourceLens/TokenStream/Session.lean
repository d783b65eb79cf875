import SourceLens.TokenStream

/-! # Cursors over a token stream, and sessions that hold several -/
namespace SourceLens

/-- A place in a source text: the bytes before it and the characters behind it. -/
structure Cursor where
  language : Language
  position : Nat
  rest : List Char
deriving DecidableEq, Repr

namespace Cursor

def start (source : String) (language : Language) : Cursor := ⟨language, 0, source.toList⟩

def remaining (c : Cursor) : List Token := tokensOf c.language c.rest

/-- Takes the next token; at the end of the text the cursor stays. -/
def next (c : Cursor) : Option Token × Cursor :=
  match nextToken? c.language c.rest with
  | none => (none, c)
  | some (t, rest) =>
    (some t, { c with position := c.position + Text.utf8Length t.text.toList, rest })

/-- Takes tokens until there are so many or none is left. -/
def take : Nat → Cursor → List Token × Cursor
  | 0, c => ([], c)
  | n + 1, c =>
    match c.next with
    | (none, c) => ([], c)
    | (some t, c) => ((t :: (take n c).1), (take n c).2)

end Cursor

/-- Cursors over one text, numbered from zero, one of which is in use. -/
structure Session where
  cursors : List Cursor
  current : Nat
  current_lt : current < cursors.length

namespace Session

inductive Request
  | next
  | take (count : Nat)
  | peek
  | language
  | clone
  | use (index : Nat)
deriving DecidableEq, Repr

inductive Reply
  | token (t : Option Token)
  | tokens (ts : List Token)
  | language (language : Language)
  | index (n : Nat)
  | done
  | noSuchCursor
deriving DecidableEq, Repr

def start (source : String) (language : Language) : Session :=
  ⟨[Cursor.start source language], 0, Nat.one_pos⟩

def cursor (s : Session) : Cursor := s.cursors.get ⟨s.current, s.current_lt⟩

def move (s : Session) (c : Cursor) : Session :=
  ⟨s.cursors.set s.current c, s.current, by simpa using s.current_lt⟩

/-- Answers one request. A copy joins at the end of the list and is not put in use. -/
def answer (s : Session) : Request → Reply × Session
  | .next => (.token s.cursor.next.1, s.move s.cursor.next.2)
  | .take n => (.tokens (s.cursor.take n).1, s.move (s.cursor.take n).2)
  | .peek => (.tokens s.cursor.remaining, s)
  | .language => (.language s.cursor.language, s)
  | .clone =>
    (.index s.cursors.length,
      ⟨s.cursors ++ [s.cursor], s.current, by
        rw [List.length_append]; exact Nat.lt_add_right _ s.current_lt⟩)
  | .use i => if h : i < s.cursors.length then (.done, ⟨s.cursors, i, h⟩) else (.noSuchCursor, s)

end Session

end SourceLens
