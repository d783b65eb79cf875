import SourceLens.Lexeme.Rule

/-! # Token streams

A text of either language is cut into tokens whose texts concatenate to it. -/
namespace SourceLens

/-- The kind of a lexeme: an identifier that the language reserves is a keyword. -/
def classify (language : Language) (kind : TokenKind) (text : String) : TokenKind :=
  if kind = .identifier ∧ language.isKeyword text then .keyword else kind

/-- The lexeme that the first matching rule cuts off, with the kind of the rule. -/
def lexeme? (language : Language) (s : List Char) : Option (TokenKind × List Char × List Char) :=
  Rule.table.findSome? fun rule => (rule.split? language s).map fun split => (rule.kind, split)

/-- The first token of a text and what follows it; one character that starts no lexeme is an
unknown token. There is none in the empty text only. -/
def nextToken? (language : Language) (s : List Char) : Option (Token × List Char) :=
  match s with
  | [] => none
  | c :: tail =>
    match lexeme? language s with
    | some (kind, lexeme, rest) =>
      let text := String.ofList lexeme
      some (⟨classify language kind text, text⟩, rest)
    | none => some (⟨.unknown, String.singleton c⟩, tail)

theorem append_of_lexeme? {language : Language} {s lexeme rest : List Char} {kind : TokenKind}
    (h : lexeme? language s = some (kind, lexeme, rest)) : lexeme ++ rest = s ∧ lexeme ≠ [] := by
  obtain ⟨rule, -, hr⟩ := List.exists_of_findSome?_eq_some h
  obtain ⟨⟨l, r⟩, hs, h⟩ := Option.map_eq_some_iff.1 hr
  cases h
  exact ⟨Rule.append_of_split? hs, Rule.ne_nil_of_split? hs⟩

/-- The text of a token is not empty, and what it leaves behind completes it to the input. -/
theorem append_of_nextToken? {language : Language} {s rest : List Char} {t : Token}
    (h : nextToken? language s = some (t, rest)) :
    t.text.toList ++ rest = s ∧ t.text.toList ≠ [] := by
  unfold nextToken? at h
  split at h
  · cases h
  · next c tail =>
    split at h
    · next hl => cases h; simpa using append_of_lexeme? hl
    · cases h; simp

theorem length_lt_of_nextToken? {language : Language} {s rest : List Char} {t : Token}
    (h : nextToken? language s = some (t, rest)) : rest.length < s.length := by
  obtain ⟨hs, ht⟩ := append_of_nextToken? h
  have := List.length_pos_iff.2 ht
  rw [← hs, List.length_append]
  omega

theorem nextToken?_eq_none_iff {language : Language} {s : List Char} :
    nextToken? language s = none ↔ s = [] := by
  cases s with
  | nil => simp [nextToken?]
  | cons c s => simp only [nextToken?]; split <;> simp

def tokensOf (language : Language) (s : List Char) : List Token :=
  match h : nextToken? language s with
  | none => []
  | some (t, rest) =>
    have : rest.length < s.length := length_lt_of_nextToken? h
    t :: tokensOf language rest
termination_by s.length

theorem tokensOf_nil (language : Language) : tokensOf language [] = [] := by
  rw [tokensOf]; rfl

theorem tokensOf_of_nextToken? {language : Language} {s rest : List Char} {t : Token}
    (h : nextToken? language s = some (t, rest)) :
    tokensOf language s = t :: tokensOf language rest := by
  rw [tokensOf]
  split
  · next hn => rw [hn] at h; cases h
  · next hn => rw [hn] at h; cases h; rfl

def tokenize (source : String) (language : Language) : List Token :=
  tokensOf language source.toList

end SourceLens
