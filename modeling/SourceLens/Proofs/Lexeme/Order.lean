import SourceLens.Proofs.Lexeme.Pattern
import SourceLens.TokenStream

/-! # The rule table in a row

The rules of each language, tried one after the other: white space, comments, strings, numbers,
operators, words. Comments and triple-quoted strings are the two places where the languages
differ. -/
namespace SourceLens

open Text Pattern

variable {language : Language} {s x rest : List Char}

/-- What opens a comment that ends with its line. -/
def Language.lineMark : Language → List Char
  | .cLike => ['/', '/']
  | .python => ['#']

def splitBlanks? (s : List Char) : Option (List Char × List Char) :=
  if (run isSourceBlank s).1 = [] then none else some (run isSourceBlank s)

def splitComment? (language : Language) (s : List Char) : Option (List Char × List Char) :=
  match language with
  | .cLike => ((lineComment "//").split? s).or ((blockComment "/*" "*/").split? s)
  | .python => (lineComment "#").split? s

def splitTriple? (language : Language) (s : List Char) : Option (List Char × List Char) :=
  match language with
  | .cLike => none
  | .python => tripleQuotedString.split? s

theorem splitBlanks?_eq_some_iff :
    splitBlanks? s = some (x, rest) ↔
      x ++ rest = s ∧ (x ≠ [] ∧ ∀ c ∈ x, isSourceBlank c = true) ∧
        ∀ c ∈ rest.head?, isSourceBlank c = false := by
  have h : run isSourceBlank s = (x, rest) ↔ _ := run_eq_iff
  rw [splitBlanks?, ite_eq_iff]
  constructor
  · rintro (⟨-, h'⟩ | ⟨hne, h'⟩)
    · cases h'
    · have hr := Option.some.inj h'
      obtain ⟨hs, hx, hr'⟩ := h.1 hr
      exact ⟨hs, ⟨by rwa [hr] at hne, hx⟩, hr'⟩
  · rintro ⟨hs, ⟨hne, hx⟩, hr⟩
    have hr := h.2 ⟨hs, hx, hr⟩
    exact .inr ⟨by rwa [hr], congrArg some hr⟩

theorem splitBlanks?_eq_none_iff :
    splitBlanks? s = none ↔ ∀ c ∈ s.head?, isSourceBlank c = false := by
  rw [← run_fst_eq_nil_iff, splitBlanks?, ite_eq_left_iff]
  simp

/-- A comment is a line that starts with the mark, or a block. -/
theorem splitComment?_eq_some_iff :
    splitComment? language s = some (x, rest) ↔
      x ++ rest = s ∧ (language.lineMark <+: x ∧ '\n' ∉ x) ∧ (∀ c ∈ rest.head?, c = '\n') ∨
        language = .cLike ∧ splitDelimited? ['/', '*'] ['*', '/'] s = some (x, rest) := by
  have hline : ∀ {mark : String}, '\n' ∉ mark.toList → mark.toList = language.lineMark →
      ((lineComment mark).split? s = some (x, rest) ↔ x ++ rest = s ∧
        (language.lineMark <+: x ∧ '\n' ∉ x) ∧ ∀ c ∈ rest.head?, c = '\n') := by
    intro mark hm he
    rw [split?_lineComment_eq_some_iff hm, he, and_assoc (a := _ <+: x)]
  cases language with
  | cLike =>
    have hb : (blockComment "/*" "*/").split? s = splitDelimited? ['/', '*'] ['*', '/'] s := rfl
    rw [splitComment?, Option.or_eq_some_iff, hline (by decide) rfl, hb]
    constructor
    · rintro (h | ⟨-, h⟩)
      · exact .inl h
      · exact .inr ⟨rfl, h⟩
    · rintro (h | ⟨-, h⟩)
      · exact .inl h
      · refine .inr ⟨split?_lineComment_eq_none_iff.2 ?_, h⟩
        obtain ⟨inner, -, rfl, -, -⟩ := splitDelimited?_eq_some_iff.1 h
        intro hp
        simp [show "//".toList = ['/', '/'] from rfl] at hp
  | python =>
    rw [splitComment?, hline (by decide) rfl]
    simp

theorem splitComment?_eq_none_iff :
    splitComment? language s = none ↔
      ¬language.lineMark <+: s ∧
        (language = .cLike → ∀ inner, s = '/' :: '*' :: inner → ¬['*', '/'] <:+: inner) := by
  cases language with
  | cLike =>
    rw [splitComment?, Option.or_eq_none_iff, split?_lineComment_eq_none_iff]
    refine and_congr Iff.rfl (splitDelimited?_eq_none_iff.trans ?_)
    exact ⟨fun h _ => h, fun h => h rfl⟩
  | python =>
    rw [splitComment?, split?_lineComment_eq_none_iff]
    exact ⟨fun h => ⟨h, nofun⟩, And.left⟩

theorem splitTriple?_eq_some_iff :
    splitTriple? language s = some (x, rest) ↔
      language = .python ∧ ∃ q, (q = '"' ∨ q = '\'') ∧
        splitDelimited? [q, q, q] [q, q, q] s = some (x, rest) := by
  cases language with
  | cLike => simp [splitTriple?]
  | python =>
    rw [splitTriple?, split?, Option.or_eq_some_iff]
    constructor
    · rintro (h | ⟨-, h⟩)
      · exact ⟨rfl, _, .inl rfl, h⟩
      · exact ⟨rfl, _, .inr rfl, h⟩
    · rintro ⟨-, q, rfl | rfl, h⟩
      · exact .inl h
      · refine .inr ⟨splitDelimited?_eq_none_iff.2 ?_, h⟩
        obtain ⟨inner, -, rfl, -, -⟩ := splitDelimited?_eq_some_iff.1 h
        intro inner h
        cases h

theorem splitTriple?_eq_none_iff :
    splitTriple? language s = none ↔
      (language = .python → ∀ q, (q = '"' ∨ q = '\'') →
        ∀ inner, s = q :: q :: q :: inner → ¬[q, q, q] <:+: inner) := by
  cases language with
  | cLike => simp [splitTriple?]
  | python =>
    rw [splitTriple?, split?, Option.or_eq_none_iff, splitDelimited?_eq_none_iff,
      splitDelimited?_eq_none_iff]
    constructor
    · rintro ⟨h₁, h₂⟩ - q (rfl | rfl)
      · exact h₁
      · exact h₂
    · intro h
      exact ⟨h rfl _ (.inl rfl), h rfl _ (.inr rfl)⟩

/-! ## The order of the rules -/

/-- The pattern takes no empty lexeme, which a rule would refuse. -/
def Pattern.NeverEmpty (pattern : Pattern) : Prop :=
  ∀ s rest, pattern.split? s ≠ some ([], rest)

theorem neverEmpty_lineComment {mark : String} (hn : '\n' ∉ mark.toList) (hm : mark.toList ≠ []) :
    (lineComment mark).NeverEmpty := by
  intro s rest h
  obtain ⟨-, h, -⟩ := (split?_lineComment_eq_some_iff hn).1 h
  exact hm (List.prefix_nil.1 h)

private theorem splitDelimited?_ne_nil {opener closer : List Char} (ho : opener ≠ [])
    (s rest : List Char) : splitDelimited? opener closer s ≠ some ([], rest) := by
  intro h
  obtain ⟨inner, body, -, -, h⟩ := splitDelimited?_eq_some_iff.1 h
  exact ho (List.append_eq_nil_iff.1 h.symm).1

theorem neverEmpty_blockComment {opener : String} (ho : opener.toList ≠ []) (closer : String) :
    (blockComment opener closer).NeverEmpty :=
  splitDelimited?_ne_nil ho

theorem neverEmpty_tripleQuotedString : tripleQuotedString.NeverEmpty := by
  intro s rest h
  rcases Option.or_eq_some_iff.1 h with h | ⟨-, h⟩
  · exact splitDelimited?_ne_nil (List.cons_ne_nil _ _) s rest h
  · exact splitDelimited?_ne_nil (List.cons_ne_nil _ _) s rest h

theorem neverEmpty_quotedString : quotedString.NeverEmpty := by
  intro s rest h
  obtain ⟨q, t, body, -, -, -, h⟩ := splitQuoted?_eq_some_iff.1 h
  cases h

theorem neverEmpty_number : number.NeverEmpty := by
  intro s rest h
  obtain ⟨-, -, ⟨⟨h, -⟩, -⟩ | ⟨a, b, h, -⟩⟩ := splitNumber?_eq_some_iff.1 h
  · exact h rfl
  · simp at h

theorem neverEmpty_operator : operator.NeverEmpty := by
  intro s rest h
  obtain ⟨-, h | ⟨a, -, h, -⟩⟩ := splitOperator?_eq_some_iff.1 h
  · exact absurd (length_of_mem_doubleOperators h) (by decide)
  · cases h

theorem neverEmpty_identifier : identifier.NeverEmpty := by
  intro s rest h
  obtain ⟨-, ⟨c, t, h, -⟩, -⟩ := splitIdentifier?_eq_some_iff.1 h
  cases h

theorem Rule.split?_of_neverEmpty {kind : TokenKind} {pattern : Pattern} {scope : Scope}
    (h : pattern.NeverEmpty) (language : Language) (s : List Char) :
    Rule.split? ⟨kind, pattern, scope⟩ language s =
      if scope.includes language then pattern.split? s else none := by
  rw [Rule.split?]
  cases hs : pattern.split? s with
  | none => rfl
  | some split =>
    obtain ⟨_ | ⟨c, x⟩, r⟩ := split
    · exact absurd hs (h s r)
    · rfl

theorem Rule.split?_whitespace (language : Language) (s : List Char) :
    Rule.split? ⟨.whitespace, .whitespace, .all⟩ language s = splitBlanks? s := by
  cases h : (run isSourceBlank s).1 <;>
    simp [Rule.split?, Scope.includes, Pattern.split?, splitBlanks?, h]

private theorem findSome?_cons_eq_or {α β : Type} (f : α → Option β) (a : α) (l : List α) :
    (a :: l).findSome? f = (f a).or (l.findSome? f) := by
  rw [List.findSome?_cons]
  cases f a <;> rfl

/-- The rules in a row: white space, comments, strings, numbers, operators, words. -/
theorem lexeme?_eq (language : Language) (s : List Char) :
    lexeme? language s =
      ((splitBlanks? s).map fun split => (.whitespace, split)).or
      (((splitComment? language s).map fun split => (.comment, split)).or
      ((((splitTriple? language s).or (splitQuoted? s)).map fun split => (.string, split)).or
      (((splitNumber? s).map fun split => (.number, split)).or
      (((splitOperator? s).map fun split => (.operator, split)).or
      ((splitIdentifier? s).map fun split => (.identifier, split)))))) := by
  simp only [lexeme?, Rule.table, findSome?_cons_eq_or, List.findSome?_nil, Rule.split?_whitespace]
  rw [Rule.split?_of_neverEmpty (neverEmpty_lineComment (by decide) (by decide)),
    Rule.split?_of_neverEmpty (neverEmpty_blockComment (by decide) "*/"),
    Rule.split?_of_neverEmpty (neverEmpty_lineComment (by decide) (by decide)),
    Rule.split?_of_neverEmpty neverEmpty_tripleQuotedString,
    Rule.split?_of_neverEmpty neverEmpty_quotedString,
    Rule.split?_of_neverEmpty neverEmpty_number,
    Rule.split?_of_neverEmpty neverEmpty_operator,
    Rule.split?_of_neverEmpty neverEmpty_identifier]
  cases language <;>
    simp [Scope.includes, splitComment?, splitTriple?, Option.map_or, Option.or_assoc,
      Pattern.split?]

end SourceLens
