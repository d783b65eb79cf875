import SourceLens.Json
import SourceLens.Proofs.Json.Reader
import Mathlib.Data.List.TakeWhile

/-! # The reader undoes the printer

An indented document is a JSON text, and the value of that text is the document's, whatever
characters its strings have and however its lists are nested. -/
namespace SourceLens.Json

variable {c : Char} {s r : List Char}

/-! ## Strings -/

theorem hexDigit?_digitChar {n : Nat} (h : n < 16) : hexDigit? (Nat.digitChar n) = some n := by
  have hall : ∀ n < 16, hexDigit? (Nat.digitChar n) = some n := by decide
  exact hall n h

theorem codePoint?_hexPair (h : c.toNat < 0x20) (r : List Char) :
    codePoint? ('0' :: '0' :: hexPair c.toNat ++ r) = some (c, r) := by
  have hhigh := hexDigit?_digitChar (n := c.toNat / 16) (by omega)
  have hlow := hexDigit?_digitChar (n := c.toNat % 16) (by omega)
  have hzero : hexDigit? '0' = some 0 := by decide
  have hunit : codeUnit? ('0' :: '0' :: hexPair c.toNat ++ r) = some (c.toNat, r) := by
    simp only [hexPair, List.cons_append, List.nil_append, codeUnit?, hzero, hhigh, hlow]
    have hsum : ((0 * 16 + 0) * 16 + c.toNat / 16) * 16 + c.toNat % 16 = c.toNat := by omega
    exact congrArg (fun n => some (n, r)) hsum
  have hc : c.toNat < 0xD800 ∨ 0xE000 ≤ c.toNat := by omega
  simp only [codePoint?, hunit, Option.bind_eq_bind, Option.bind_some, if_pos hc, Char.ofNat_toNat]
  rfl

/-- The characters whose escape is a backslash and one letter. -/
def shortlyEscaped : List Char := ['"', '\\', '\x08', '\x0c', '\n', '\r', '\t']

theorem escaped_of_notMem (h : c ∉ shortlyEscaped) :
    escaped c = if c.toNat < 0x20 then '\\' :: 'u' :: '0' :: '0' :: hexPair c.toNat else [c] := by
  simp only [shortlyEscaped, List.mem_cons, List.not_mem_nil, or_false, not_or] at h
  simp only [escaped, h, if_false]

theorem character?_escaped (c : Char) (r : List Char) :
    character? (escaped c ++ r) = some (c, r) := by
  by_cases h : c ∈ shortlyEscaped
  · simp only [shortlyEscaped, List.mem_cons, List.not_mem_nil, or_false] at h
    rcases h with rfl | rfl | rfl | rfl | rfl | rfl | rfl <;> rfl
  · rw [escaped_of_notMem h]
    split
    · next hcontrol => exact codePoint?_hexPair hcontrol r
    · next hcontrol =>
      simp only [shortlyEscaped, List.mem_cons, not_or] at h
      rw [List.singleton_append, character?, if_neg (by simp [h, hcontrol])]
      all_goals simp_all

theorem head?_escaped (c : Char) (r : List Char) :
    (escaped c ++ r).head? = some (if c ∈ shortlyEscaped ∨ c.toNat < 0x20 then '\\' else c) := by
  by_cases h : c ∈ shortlyEscaped
  · rw [if_pos (.inl h)]
    simp only [shortlyEscaped, List.mem_cons, List.not_mem_nil, or_false] at h
    rcases h with rfl | rfl | rfl | rfl | rfl | rfl | rfl <;> rfl
  · rw [escaped_of_notMem h]
    split <;> simp [*]

theorem characters?_escaped (cs r : List Char) :
    characters? (cs.flatMap escaped ++ '"' :: r) = some (cs, r) := by
  induction cs with
  | nil =>
    rw [characters?]
    rfl
  | cons c cs ih =>
    have hhead : (escaped c ++ (cs.flatMap escaped ++ '"' :: r)).head? ≠ some '"' := by
      rw [head?_escaped]
      split
      · decide
      · next h =>
        rw [ne_eq, Option.some.injEq]
        rintro rfl
        exact h (.inl (by decide))
    have hlength : (cs.flatMap escaped ++ '"' :: r).length <
        (escaped c ++ (cs.flatMap escaped ++ '"' :: r)).length := by
      have hpos : escaped c ≠ [] := by
        have hc := head?_escaped c []
        rintro hnil
        simp [hnil] at hc
      have := List.length_pos_iff.2 hpos
      simp only [List.length_append]
      omega
    rw [characters?, List.flatMap_cons, List.append_assoc, if_neg hhead, character?_escaped]
    simp only [if_pos hlength, ih, Option.map_some]

theorem string?_literal (text : String) (r : List Char) :
    string? (text.toList.flatMap escaped ++ '"' :: r) = some (text, r) := by
  simp only [string?, characters?_escaped, Option.map_some, String.ofList_toList]

/-! ## Sequences -/

theorem skipBlanks_newLine (depth : Nat) (s : List Char) :
    skipBlanks (newLine depth ++ s) = skipBlanks s := by
  have h : ∀ c ∈ newLine depth, isBlank c = true := by
    intro c hc
    rcases List.mem_cons.1 hc with rfl | hc
    · rfl
    · rw [List.eq_of_mem_replicate hc]
      rfl
  exact List.dropWhile_append_of_pos h

theorem skipBlanks_cons (h : isBlank c = false) (s : List Char) :
    skipBlanks (c :: s) = c :: s := by
  rw [skipBlanks, List.dropWhile_cons, h]
  rfl

section Sequences

variable {α β : Type} {element? : List Char → Option (β × List Char)} {close : Char}
  {print : α → List Char} {meaning : α → β}

/-- Elements on lines of their own, with commas between them; the last new line is the one before
the closing mark. -/
def lines (print : α → List Char) (depth : Nat) (a : α) (as : List α) : List Char :=
  newLine (depth + 1) ++ (print a ++
    (as.flatMap (fun b => ',' :: newLine (depth + 1) ++ print b) ++ newLine depth))

theorem length_print_lt_length_lines (print : α → List Char) (depth : Nat) {a b : α} {as : List α}
    (h : b ∈ a :: as) : (print b).length < (lines print depth a as).length := by
  have hline : 0 < (newLine depth).length := by simp [newLine]
  simp only [lines, List.length_append]
  rcases List.mem_cons.1 h with rfl | h
  · omega
  · obtain ⟨before, behind, rfl⟩ := List.append_of_mem h
    simp only [List.flatMap_append, List.flatMap_cons, List.length_append, List.length_cons]
    omega

/-- Elements are read back from lines of their own, if each is read back from its text and no text
begins with white space. -/
theorem elements?_lines (hcomma : close ≠ ',') (hclose : isBlank close = false)
    (hprint : ∀ a r, skipBlanks (print a ++ r) = print a ++ r) (depth : Nat) (a : α) (as : List α)
    (hread : ∀ b ∈ a :: as, ∀ r, element? (print b ++ r) = some (meaning b, r)) (r : List Char) :
    elements? element? close (lines print depth a as ++ close :: r) =
      some ((a :: as).map meaning, r) := by
  simp only [lines, List.append_assoc]
  induction as generalizing a with
  | nil =>
    rw [elements?, skipBlanks_newLine, hprint, hread a List.mem_cons_self]
    simp [skipBlanks_newLine, skipBlanks_cons hclose]
  | cons b as ih =>
    have hb := ih b fun e he => hread e (List.mem_cons_of_mem a he)
    have hblank : isBlank ',' = false := rfl
    rw [elements?, skipBlanks_newLine, hprint, hread a List.mem_cons_self, List.flatMap_cons]
    simp only [List.cons_append, List.append_assoc, skipBlanks_cons hblank] at hb ⊢
    rw [if_neg hcomma.symm, if_pos, hb]
    · rfl
    · simp only [List.length_append, List.length_cons, true_and]
      omega

theorem sequence?_lines (hcomma : close ≠ ',') (hclose : isBlank close = false)
    (hprint : ∀ a r, skipBlanks (print a ++ r) = print a ++ r)
    (hhead : ∀ a r, (print a ++ r).head? ≠ some close) (depth : Nat) (a : α) (as : List α)
    (hread : ∀ b ∈ a :: as, ∀ r, element? (print b ++ r) = some (meaning b, r)) (r : List Char) :
    sequence? element? close (lines print depth a as ++ close :: r) =
      some ((a :: as).map meaning, r) := by
  have hopen : (skipBlanks (lines print depth a as ++ close :: r)).head? ≠ some close := by
    rw [lines, List.append_assoc, skipBlanks_newLine, List.append_assoc, hprint]
    exact hhead a _
  rw [sequence?, if_neg hopen]
  exact elements?_lines hcomma hclose hprint depth a as hread r

end Sequences

/-! ## Documents -/

mutual

/-- The value of a document. -/
def Value.ofJson : Json → Value
  | .string text => .string text
  | .array items => .array (ofItems items)
  | .object members => .object (ofMembers members)

def Value.ofItems : List Json → List Value
  | [] => []
  | item :: items => ofJson item :: ofItems items

def Value.ofMembers : List (String × Json) → List (String × Value)
  | [] => []
  | (name, value) :: members => (name, ofJson value) :: ofMembers members

end

theorem Value.ofItems_eq_map (items : List Json) : ofItems items = items.map ofJson := by
  induction items with
  | nil => rfl
  | cons item items ih => rw [ofItems, ih, List.map_cons]

theorem Value.ofMembers_eq_map (members : List (String × Json)) :
    ofMembers members = members.map fun m => (m.1, ofJson m.2) := by
  induction members with
  | nil => rfl
  | cons m members ih => rw [ofMembers, ih, List.map_cons]

/-- The text of a member at a depth. -/
def memberChars (depth : Nat) (m : String × Json) : List Char :=
  literal m.1 ++ ':' :: ' ' :: prettyChars depth m.2

theorem prettyItems_eq_flatMap (depth : Nat) (items : List Json) :
    prettyItems depth items =
      items.flatMap fun item => ',' :: newLine depth ++ prettyChars depth item := by
  induction items with
  | nil => rfl
  | cons item items ih => rw [prettyItems, ih, List.flatMap_cons]

theorem prettyMembers_eq_flatMap (depth : Nat) (members : List (String × Json)) :
    prettyMembers depth members =
      members.flatMap fun m => ',' :: newLine depth ++ memberChars depth m := by
  induction members with
  | nil => rfl
  | cons m members ih =>
    rw [prettyMembers, ih, List.flatMap_cons]
    simp [memberChars]

theorem prettyChars_array_cons (depth : Nat) (item : Json) (items : List Json) :
    prettyChars depth (.array (item :: items)) =
      '[' :: (lines (prettyChars (depth + 1)) depth item items ++ [']']) := by
  rw [prettyChars, prettyItems_eq_flatMap, lines]
  simp only [List.cons_append, List.append_assoc]

theorem prettyChars_object_cons (depth : Nat) (m : String × Json) (members : List (String × Json)) :
    prettyChars depth (.object (m :: members)) =
      '\x7b' :: (lines (memberChars (depth + 1)) depth m members ++ ['\x7d']) := by
  rw [prettyChars, prettyMembers_eq_flatMap, lines, memberChars]
  simp only [List.cons_append, List.append_assoc]

/-- A document begins with a quote or an opening mark, neither white space nor a closing mark. -/
theorem exists_prettyChars_eq_cons (depth : Nat) (d : Json) :
    ∃ c s, prettyChars depth d = c :: s ∧ isBlank c = false ∧ c ≠ ']' := by
  cases d with
  | string text => exact ⟨'"', _, by rw [prettyChars, literal]; rfl, rfl, by decide⟩
  | array items =>
    cases items with
    | nil => exact ⟨'[', _, by rw [prettyChars], rfl, by decide⟩
    | cons item items => exact ⟨'[', _, prettyChars_array_cons depth item items, rfl, by decide⟩
  | object members =>
    cases members with
    | nil => exact ⟨'\x7b', _, by rw [prettyChars], rfl, by decide⟩
    | cons m members =>
      exact ⟨'\x7b', _, prettyChars_object_cons depth m members, rfl, by decide⟩

theorem skipBlanks_prettyChars (depth : Nat) (d : Json) (r : List Char) :
    skipBlanks (prettyChars depth d ++ r) = prettyChars depth d ++ r := by
  obtain ⟨c, s, hs, hc, -⟩ := exists_prettyChars_eq_cons depth d
  rw [hs, List.cons_append]
  exact skipBlanks_cons hc _

theorem head?_prettyChars_ne (depth : Nat) (d : Json) (r : List Char) :
    (prettyChars depth d ++ r).head? ≠ some ']' := by
  obtain ⟨c, s, hs, -, hc⟩ := exists_prettyChars_eq_cons depth d
  rwa [hs, List.cons_append, List.head?_cons, ne_eq, Option.some.injEq]

theorem skipBlanks_memberChars (depth : Nat) (m : String × Json) (r : List Char) :
    skipBlanks (memberChars depth m ++ r) = memberChars depth m ++ r := by
  simp only [memberChars, literal, List.cons_append]
  exact skipBlanks_cons rfl _

theorem head?_memberChars_ne (depth : Nat) (m : String × Json) (r : List Char) :
    (memberChars depth m ++ r).head? ≠ some '\x7d' := by
  simp [memberChars, literal]

theorem member?_memberChars {value? : List Char → Option (Value × List Char)} {depth : Nat}
    {m : String × Json} (h : ∀ r, value? (prettyChars depth m.2 ++ r) = some (.ofJson m.2, r))
    (r : List Char) :
    member? value? (memberChars depth m ++ r) = some ((m.1, .ofJson m.2), r) := by
  have hspace : skipBlanks (' ' :: (prettyChars depth m.2 ++ r)) = prettyChars depth m.2 ++ r :=
    skipBlanks_prettyChars depth m.2 r
  simp only [memberChars, literal, List.cons_append, List.append_assoc, List.nil_append, member?,
    string?_literal, Option.bind_eq_bind, Option.bind_some, skipBlanks_cons (c := ':') rfl, hspace,
    h]
  rfl

theorem value?_prettyChars_array {n depth : Nat} {items : List Json}
    (hread : ∀ item ∈ items, ∀ r,
      value? n (prettyChars (depth + 1) item ++ r) = some (.ofJson item, r))
    (r : List Char) :
    value? (n + 1) (prettyChars depth (.array items) ++ r) =
      some (.ofJson (.array items), r) := by
  cases items with
  | nil =>
    rw [prettyChars]
    rfl
  | cons item items =>
    have hitems := sequence?_lines (show ']' ≠ ',' by decide) rfl
      (skipBlanks_prettyChars (depth + 1)) (head?_prettyChars_ne (depth + 1)) depth item items
      hread r
    rw [prettyChars_array_cons, List.cons_append, List.append_assoc, List.singleton_append,
      value?, hitems, Option.map_some, Value.ofJson, Value.ofItems_eq_map]

theorem value?_prettyChars_object {n depth : Nat} {members : List (String × Json)}
    (hread : ∀ m ∈ members, ∀ r,
      value? n (prettyChars (depth + 1) m.2 ++ r) = some (.ofJson m.2, r))
    (r : List Char) :
    value? (n + 1) (prettyChars depth (.object members) ++ r) =
      some (.ofJson (.object members), r) := by
  cases members with
  | nil =>
    rw [prettyChars]
    rfl
  | cons m members =>
    have hmembers := sequence?_lines (show '\x7d' ≠ ',' by decide) rfl
      (skipBlanks_memberChars (depth + 1)) (head?_memberChars_ne (depth + 1)) depth m members
      (fun m' hm' => member?_memberChars (hread m' hm')) r
    rw [prettyChars_object_cons, List.cons_append, List.append_assoc, List.singleton_append,
      value?, hmembers, Option.map_some, Value.ofJson, Value.ofMembers_eq_map]

theorem length_prettyChars_item_lt (depth : Nat) {item : Json} {items : List Json}
    (h : item ∈ items) :
    (prettyChars (depth + 1) item).length < (prettyChars depth (.array items)).length := by
  cases items with
  | nil => cases h
  | cons first items =>
    have := length_print_lt_length_lines (prettyChars (depth + 1)) depth h
    rw [prettyChars_array_cons, List.length_cons, List.length_append]
    omega

theorem length_prettyChars_member_lt (depth : Nat) {m : String × Json}
    {members : List (String × Json)} (h : m ∈ members) :
    (prettyChars (depth + 1) m.2).length < (prettyChars depth (.object members)).length := by
  cases members with
  | nil => cases h
  | cons first members =>
    have hm := length_print_lt_length_lines (memberChars (depth + 1)) depth h
    rw [prettyChars_object_cons, List.length_cons, List.length_append]
    simp only [memberChars, List.length_append, List.length_cons] at hm
    omega

/-- A document is read back from its text, whatever stands behind it. The induction is on the depth
that the reader allows: the text of each part is shorter than the whole, so that a document is
nested no deeper than its text is long. -/
theorem value?_prettyChars (n : Nat) (d : Json) (depth : Nat) (r : List Char)
    (h : (prettyChars depth d).length ≤ n) :
    value? n (prettyChars depth d ++ r) = some (.ofJson d, r) := by
  induction n generalizing d depth r with
  | zero =>
    obtain ⟨c, s, hs, -⟩ := exists_prettyChars_eq_cons depth d
    rw [hs] at h
    cases h
  | succ n ih =>
    cases d with
    | string text =>
      simp only [prettyChars, literal, List.append_assoc, List.cons_append, List.nil_append, value?,
        string?_literal, Option.map_some, Value.ofJson]
    | array items =>
      apply value?_prettyChars_array
      intro item hitem r
      have hlt := length_prettyChars_item_lt depth hitem
      exact ih item (depth + 1) r (by omega)
    | object members =>
      apply value?_prettyChars_object
      intro m hm r
      have hlt := length_prettyChars_member_lt depth hm
      exact ih m.2 (depth + 1) r (by omega)

/-- The value of an indented document is read from its text, with or without white space behind
it. -/
theorem read?_pretty_append {blanks : String} (d : Json) (h : blanks.toList.all isBlank) :
    read? (pretty d ++ blanks) = some (.ofJson d) := by
  have hlength : (prettyChars 0 d).length ≤ (pretty d ++ blanks).length := by
    simp [pretty]
  have hblanks : skipBlanks blanks.toList = [] := List.dropWhile_eq_nil_iff.2 (List.all_eq_true.1 h)
  rw [read?, String.toList_append, pretty, String.toList_ofList, skipBlanks_prettyChars]
  rw [← pretty, value?_prettyChars _ d 0 _ hlength]
  simp only [hblanks, if_true]

end SourceLens.Json
