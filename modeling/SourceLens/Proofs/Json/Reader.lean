import SourceLens.Text.Split

/-! # A reader of JSON

It reads a JSON text of any kind, with numbers, words and every escape, and nothing else: one value
between white space. Numbers keep their spelling. An escape of one half of a surrogate pair stands
for no character and is refused. -/
namespace SourceLens.Json

open Text

/-- What a JSON text says. -/
inductive Value
  | null
  | boolean (b : Bool)
  | number (spelling : String)
  | string (text : String)
  | array (items : List Value)
  | object (members : List (String × Value))

def isBlank (c : Char) : Bool := c == ' ' || c == '\t' || c == '\n' || c == '\r'

def skipBlanks (s : List Char) : List Char := s.dropWhile isBlank

/-! ## Strings -/

def hexDigit? (c : Char) : Option Nat :=
  if '0' ≤ c ∧ c ≤ '9' then some (c.toNat - '0'.toNat)
  else if 'a' ≤ c ∧ c ≤ 'f' then some (c.toNat - 'a'.toNat + 10)
  else if 'A' ≤ c ∧ c ≤ 'F' then some (c.toNat - 'A'.toNat + 10)
  else none

/-- The number that four hexadecimal digits write. -/
def codeUnit? : List Char → Option (Nat × List Char)
  | a :: b :: c :: d :: s => do
    let a ← hexDigit? a
    let b ← hexDigit? b
    let c ← hexDigit? c
    let d ← hexDigit? d
    return (((a * 16 + b) * 16 + c) * 16 + d, s)
  | _ => none

/-- The character behind a backslash and `u`. Beyond the first plane it is written as two halves,
each with an escape of its own. -/
def codePoint? (s : List Char) : Option (Char × List Char) := do
  let (high, s) ← codeUnit? s
  if high < 0xD800 ∨ 0xE000 ≤ high then return (Char.ofNat high, s)
  else
    match s with
    | '\\' :: 'u' :: s =>
      let (low, s) ← codeUnit? s
      if high < 0xDC00 ∧ 0xDC00 ≤ low ∧ low < 0xE000 then
        return (Char.ofNat (0x10000 + (high - 0xD800) * 0x400 + (low - 0xDC00)), s)
      else none
    | _ => none

/-- The character that a letter behind a backslash stands for. -/
def shortEscape? : Char → Option Char
  | '"' => some '"'
  | '\\' => some '\\'
  | '/' => some '/'
  | 'b' => some '\x08'
  | 'f' => some '\x0c'
  | 'n' => some '\n'
  | 'r' => some '\r'
  | 't' => some '\t'
  | _ => none

/-- The first character of a string, escaped or not. -/
def character? : List Char → Option (Char × List Char)
  | [] => none
  | '\\' :: [] => none
  | '\\' :: 'u' :: s => codePoint? s
  | '\\' :: c :: s => (shortEscape? c).map fun c => (c, s)
  | c :: s => if c = '"' ∨ c.toNat < 0x20 then none else some (c, s)

/-- The characters up to the closing quote. That each of them takes some text away is tested here
rather than proved of the operations above. -/
def characters? (s : List Char) : Option (List Char × List Char) :=
  if s.head? = some '"' then some ([], s.tail)
  else
    match character? s with
    | none => none
    | some (c, r) =>
      if r.length < s.length then (characters? r).map fun (cs, r) => (c :: cs, r) else none
termination_by s.length

/-- The text of a string behind its opening quote. -/
def string? (s : List Char) : Option (String × List Char) :=
  (characters? s).map fun (cs, r) => (String.ofList cs, r)

/-! ## Numbers and words -/

def digits? (s : List Char) : Option (List Char × List Char) :=
  match run Char.isDigit s with
  | ([], _) => none
  | (ds, r) => some (ds, r)

/-- An integer without a sign; no zero stands before its other digits. -/
def integer? : List Char → Option (List Char × List Char)
  | '0' :: s => some (['0'], s)
  | s => digits? s

def fraction? : List Char → Option (List Char × List Char)
  | '.' :: s => (digits? s).map fun (ds, r) => ('.' :: ds, r)
  | s => some ([], s)

def sign (marks : List Char) (s : List Char) : List Char × List Char :=
  match s with
  | [] => ([], [])
  | c :: r => if c ∈ marks then ([c], r) else ([], s)

def exponent? (s : List Char) : Option (List Char × List Char) :=
  match sign ['e', 'E'] s with
  | ([], s) => some ([], s)
  | (e, s) =>
    let (mark, s) := sign ['+', '-'] s
    (digits? s).map fun (ds, r) => (e ++ mark ++ ds, r)

def number? (s : List Char) : Option (List Char × List Char) := do
  let (minus, s) := sign ['-'] s
  let (whole, s) ← integer? s
  let (part, s) ← fraction? s
  let (power, s) ← exponent? s
  return (minus ++ whole ++ part ++ power, s)

/-- One of the three words, or a number. -/
def scalar? (s : List Char) : Option (Value × List Char) :=
  ((behind? "null".toList s).map fun r => (.null, r)) <|>
    ((behind? "true".toList s).map fun r => (.boolean true, r)) <|>
    ((behind? "false".toList s).map fun r => (.boolean false, r)) <|>
    (number? s).map fun (x, r) => (.number (String.ofList x), r)

/-! ## Values -/

section Sequences

variable {α : Type} (element? : List Char → Option (α × List Char)) (close : Char)

/-- Elements with commas between them up to a closing mark; there is at least one. An element that
takes no text away would go on for ever and is refused. -/
def elements? (s : List Char) : Option (List α × List Char) :=
  match element? (skipBlanks s) with
  | none => none
  | some (a, r) =>
    match skipBlanks r with
    | [] => none
    | c :: r =>
      if c = close then some ([a], r)
      else if c = ',' ∧ r.length < s.length then
        (elements? r).map fun (as, r) => (a :: as, r)
      else none
termination_by s.length
decreasing_by simp_all

/-- What stands behind an opening mark up to the closing one. -/
def sequence? (s : List Char) : Option (List α × List Char) :=
  if (skipBlanks s).head? = some close then some ([], (skipBlanks s).tail)
  else elements? element? close s

end Sequences

/-- A name, a colon and a value. -/
def member? (value? : List Char → Option (Value × List Char)) :
    List Char → Option ((String × Value) × List Char)
  | '"' :: s => do
    let (name, s) ← string? s
    match skipBlanks s with
    | ':' :: s =>
      let (v, s) ← value? (skipBlanks s)
      return ((name, v), s)
    | _ => none
  | _ => none

/-- The value that a text begins with, if it is nested less than so deep. -/
def value? : Nat → List Char → Option (Value × List Char)
  | 0, _ => none
  | _ + 1, '"' :: s => (string? s).map fun (text, r) => (.string text, r)
  | depth + 1, '[' :: s =>
    (sequence? (value? depth) ']' s).map fun (items, r) => (.array items, r)
  | depth + 1, '\x7b' :: s =>
    (sequence? (member? (value? depth)) '\x7d' s).map fun (members, r) => (.object members, r)
  | _ + 1, s => scalar? s

/-- The value of a whole text. It cannot be nested deeper than the text is long. -/
def read? (text : String) : Option Value :=
  match value? text.length (skipBlanks text.toList) with
  | none => none
  | some (v, r) => if skipBlanks r = [] then some v else none

example : read? "[\"\\ud83d\\ude00\", -0.5e+3 ]" =
    some (.array [.string "😀", .number "-0.5e+3"]) := by
  cbv

example : read? "[\"a\", ]" = none := by cbv

end SourceLens.Json
