/-! # Splitting a text in two

Each operation here cuts a text into a first part and a rest that concatenate to the text. -/
namespace SourceLens.Text

def utf8Length : List Char → Nat
  | [] => 0
  | c :: s => c.utf8Size + utf8Length s

@[simp] theorem utf8Length_nil : utf8Length [] = 0 := rfl

@[simp] theorem utf8Length_cons (c : Char) (s : List Char) :
    utf8Length (c :: s) = c.utf8Size + utf8Length s := rfl

@[simp] theorem utf8Length_append (s t : List Char) :
    utf8Length (s ++ t) = utf8Length s + utf8Length t := by
  induction s with
  | nil => simp
  | cons c s ih => simp [ih, Nat.add_assoc]

/-- The longest run of characters of a class at the start, and the rest. -/
def run (p : Char → Bool) (s : List Char) : List Char × List Char :=
  (s.takeWhile p, s.dropWhile p)

@[simp] theorem run_append (p : Char → Bool) (s : List Char) : (run p s).1 ++ (run p s).2 = s :=
  List.takeWhile_append_dropWhile

/-- A text without the longest run of characters of a class at its end. -/
def dropTrailing (p : Char → Bool) (s : List Char) : List Char := (s.reverse.dropWhile p).reverse

/-- The parts of a text between its separators, which belong to no part; there is at least one
part. -/
def parts (separator : Char) : List Char → List (List Char)
  | [] => [[]]
  | c :: s =>
    if c = separator then [] :: parts separator s
    else
      match parts separator s with
      | [] => [[c]]
      | first :: others => (c :: first) :: others

theorem parts_ne_nil (separator : Char) (s : List Char) : parts separator s ≠ [] := by
  cases s with
  | nil => simp [parts]
  | cons c s =>
    simp only [parts]
    split
    · simp
    · split <;> simp

/-- The lines of a text. A line ends with a line feed or with a carriage return and a line feed;
nothing behind the last of these is no line. -/
def lines : List Char → List (List Char)
  | [] => []
  | '\n' :: s => [] :: lines s
  | '\r' :: '\n' :: s => [] :: lines s
  | c :: s =>
    match lines s with
    | [] => [[c]]
    | first :: others => (c :: first) :: others

def behind? : List Char → List Char → Option (List Char)
  | [], s => some s
  | _ :: _, [] => none
  | m :: mark, c :: s => if m = c then behind? mark s else none

theorem behind?_eq_some_iff {mark s rest : List Char} :
    behind? mark s = some rest ↔ s = mark ++ rest := by
  induction mark generalizing s with
  | nil => simp [behind?]
  | cons m mark ih =>
    cases s with
    | nil => simp [behind?]
    | cons c s =>
      by_cases h : m = c
      · simp [behind?, h, ih]
      · simp [behind?, h, Ne.symm h]

/-- Cuts behind the leftmost occurrence of `mark`; an empty mark occurs at the start. -/
def splitThrough? (mark : List Char) : List Char → Option (List Char × List Char)
  | [] => if mark = [] then some ([], []) else none
  | c :: s =>
    match behind? mark (c :: s) with
    | some rest => some (mark, rest)
    | none => (splitThrough? mark s).map fun (body, rest) => (c :: body, rest)

theorem append_of_splitThrough? {mark s body rest : List Char}
    (h : splitThrough? mark s = some (body, rest)) : body ++ rest = s := by
  induction s generalizing body with
  | nil =>
    simp only [splitThrough?] at h
    split at h <;> cases h
    rfl
  | cons c s ih =>
    simp only [splitThrough?] at h
    split at h
    · next r hr => cases h; exact (behind?_eq_some_iff.1 hr).symm
    · obtain ⟨⟨b, r⟩, hb, hr⟩ := Option.map_eq_some_iff.1 h
      cases hr
      rw [List.cons_append, ih hb]

end SourceLens.Text
