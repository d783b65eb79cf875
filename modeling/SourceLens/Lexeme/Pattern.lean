import SourceLens.Text.Blank
import SourceLens.Text.Split

/-! # Shapes of lexemes

A pattern cuts a text into a lexeme at its start and the rest. -/
namespace SourceLens

open Text

inductive Pattern
  /-- A run of source white space, which may be empty. -/
  | whitespace
  /-- From the opener up to the next line feed, which stays outside. -/
  | lineComment (opener : String)
  /-- From the opener through the first closer behind it. -/
  | blockComment (opener closer : String)
  /-- Between two equal quotes; a backslash takes the next character with it. -/
  | quotedString
  /-- Between two equal triples of quotes, without escapes. -/
  | tripleQuotedString
  /-- Digits, with or without a fraction, that no word character follows. -/
  | number
  /-- An operator or a punctuation mark, two characters before one. -/
  | operator
  /-- An ASCII letter or underscore, then ASCII letters, digits or underscores. -/
  | identifier
deriving DecidableEq, Repr

namespace Pattern

def doubleOperators : List String :=
  ["->", "++", "--", "&&", "||", "==", "!=", "<=", ">=", "+=", "-=", "*=", "/=", "%="]

def singleOperators : String := "+-*/%=&|<>!^~,.;:?()\x7b\x7d[]"

def isWordChar (c : Char) : Bool := c.isAlphanum || c == '_'

def isWordStart (c : Char) : Bool := c.isAlpha || c == '_'

/-- Whether a word may end before the text: nothing follows, or no word character. -/
def atWordBoundary : List Char → Bool
  | [] => true
  | c :: _ => !isWordChar c

def splitDelimited? (opener closer : List Char) (s : List Char) :
    Option (List Char × List Char) :=
  (behind? opener s).bind fun inner =>
    (splitThrough? closer inner).map fun (body, rest) => (opener ++ body, rest)

/-- Cuts behind the first `quote` that no backslash escapes. -/
def closeQuote? (quote : Char) : List Char → Option (List Char × List Char)
  | [] => none
  | c :: s =>
    if c = '\\' then
      match s with
      | [] => none
      | e :: s => (closeQuote? quote s).map fun (body, rest) => (c :: e :: body, rest)
    else if c = quote then some ([c], s)
    else (closeQuote? quote s).map fun (body, rest) => (c :: body, rest)

def splitQuoted? : List Char → Option (List Char × List Char)
  | [] => none
  | c :: s =>
    if c = '"' ∨ c = '\'' then (closeQuote? c s).map fun (body, rest) => (c :: body, rest)
    else none

def splitFraction? : List Char → Option (List Char × List Char)
  | '.' :: s =>
    let (digits, rest) := run Char.isDigit s
    if digits ≠ [] ∧ atWordBoundary rest then some ('.' :: digits, rest) else none
  | _ => none

/-- Digits and a fraction, or else digits alone before a word boundary. -/
def splitNumber? (s : List Char) : Option (List Char × List Char) :=
  let (digits, rest) := run Char.isDigit s
  if digits = [] then none
  else
    match splitFraction? rest with
    | some (fraction, rest) => some (digits ++ fraction, rest)
    | none => if atWordBoundary rest then some (digits, rest) else none

/-- The first double operator that the text starts with, or else a single one. -/
def splitOperator? (s : List Char) : Option (List Char × List Char) :=
  let double := doubleOperators.findSome? fun op =>
    (behind? op.toList s).map fun rest => (op.toList, rest)
  match double with
  | some split => some split
  | none =>
    match s with
    | c :: rest => if c ∈ singleOperators.toList then some ([c], rest) else none
    | [] => none

def splitIdentifier? : List Char → Option (List Char × List Char)
  | c :: s =>
    if isWordStart c then
      let (tail, rest) := run isWordChar s
      some (c :: tail, rest)
    else none
  | [] => none

/-- Cuts a text into the lexeme of this shape at its start and the rest. -/
def split? (pattern : Pattern) (s : List Char) : Option (List Char × List Char) :=
  match pattern with
  | whitespace => some (run isSourceBlank s)
  | lineComment opener => (behind? opener.toList s).map fun _ => run (· != '\n') s
  | blockComment opener closer => splitDelimited? opener.toList closer.toList s
  | quotedString => splitQuoted? s
  | tripleQuotedString =>
    (splitDelimited? ['"', '"', '"'] ['"', '"', '"'] s).or
      (splitDelimited? ['\'', '\'', '\''] ['\'', '\'', '\''] s)
  | number => splitNumber? s
  | operator => splitOperator? s
  | identifier => splitIdentifier? s

/-- The length in bytes of the lexeme at the start of a text. -/
def matchLength? (pattern : Pattern) (s : String) : Option Nat :=
  (pattern.split? s.toList).map fun (lexeme, _) => utf8Length lexeme

theorem append_of_splitDelimited? {opener closer s lexeme rest : List Char}
    (h : splitDelimited? opener closer s = some (lexeme, rest)) : lexeme ++ rest = s := by
  obtain ⟨inner, hi, h⟩ := Option.bind_eq_some_iff.1 h
  obtain ⟨⟨body, r⟩, hb, h⟩ := Option.map_eq_some_iff.1 h
  cases h
  rw [List.append_assoc, append_of_splitThrough? hb, behind?_eq_some_iff.1 hi]

theorem append_of_closeQuote? {quote : Char} {s body rest : List Char}
    (h : closeQuote? quote s = some (body, rest)) : body ++ rest = s := by
  fun_induction closeQuote? quote s generalizing body with
  | case1 => cases h
  | case2 => cases h
  | case3 e s ih =>
    obtain ⟨⟨b, r⟩, hb, h⟩ := Option.map_eq_some_iff.1 h
    cases h
    simp [ih hb]
  | case4 s => cases h; rfl
  | case5 c s _ _ ih =>
    obtain ⟨⟨b, r⟩, hb, h⟩ := Option.map_eq_some_iff.1 h
    cases h
    simp [ih hb]

theorem append_of_splitQuoted? {s lexeme rest : List Char}
    (h : splitQuoted? s = some (lexeme, rest)) : lexeme ++ rest = s := by
  cases s with
  | nil => cases h
  | cons c s =>
    simp only [splitQuoted?] at h
    split at h
    · obtain ⟨⟨b, r⟩, hb, h⟩ := Option.map_eq_some_iff.1 h
      cases h
      rw [List.cons_append, append_of_closeQuote? hb]
    · cases h

theorem append_of_splitFraction? {s lexeme rest : List Char}
    (h : splitFraction? s = some (lexeme, rest)) : lexeme ++ rest = s := by
  unfold splitFraction? at h
  split at h
  · next s =>
    simp only at h
    split at h
    · cases h; rw [List.cons_append, run_append]
    · cases h
  · cases h

theorem append_of_splitNumber? {s lexeme rest : List Char}
    (h : splitNumber? s = some (lexeme, rest)) : lexeme ++ rest = s := by
  simp only [splitNumber?] at h
  split at h
  · cases h
  · split at h
    · next hf =>
      cases h
      rw [List.append_assoc, append_of_splitFraction? hf, run_append]
    · split at h
      · cases h; exact run_append _ s
      · cases h

theorem append_of_splitOperator? {s lexeme rest : List Char}
    (h : splitOperator? s = some (lexeme, rest)) : lexeme ++ rest = s := by
  simp only [splitOperator?] at h
  split at h
  · next hd =>
    cases h
    obtain ⟨op, -, hop⟩ := List.exists_of_findSome?_eq_some hd
    obtain ⟨r, hr, h⟩ := Option.map_eq_some_iff.1 hop
    cases h
    exact (behind?_eq_some_iff.1 hr).symm
  · split at h
    · split at h <;> cases h
      rfl
    · cases h

theorem append_of_splitIdentifier? {s lexeme rest : List Char}
    (h : splitIdentifier? s = some (lexeme, rest)) : lexeme ++ rest = s := by
  cases s with
  | nil => cases h
  | cons c s =>
    simp only [splitIdentifier?] at h
    split at h <;> cases h
    rw [List.cons_append, run_append]

theorem append_of_split? {pattern : Pattern} {s lexeme rest : List Char}
    (h : pattern.split? s = some (lexeme, rest)) : lexeme ++ rest = s := by
  cases pattern with
  | whitespace => cases h; exact run_append _ s
  | lineComment opener =>
    obtain ⟨_, _, h⟩ := Option.map_eq_some_iff.1 h
    simpa only [h] using run_append (· != '\n') s
  | blockComment opener closer => exact append_of_splitDelimited? h
  | quotedString => exact append_of_splitQuoted? h
  | tripleQuotedString =>
    rcases Option.or_eq_some_iff.1 h with h | ⟨-, h⟩ <;> exact append_of_splitDelimited? h
  | number => exact append_of_splitNumber? h
  | operator => exact append_of_splitOperator? h
  | identifier => exact append_of_splitIdentifier? h

end Pattern

end SourceLens
