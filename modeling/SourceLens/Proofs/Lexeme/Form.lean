import SourceLens.Proofs.Lexeme.Order

/-! # The forms of a first token

A text starts with a token exactly if some form fits the token's text and the form may end where
the rest of the text begins. Fit is a matter of the token alone; whatever the rest can change is
in the end. -/
namespace SourceLens

open Text Pattern

variable {language : Language} {s x rest : List Char}

/-- The ways in which a text can start with a token. -/
inductive Form
  | blanks | line | block | triple | quoted | integer | decimal | double | single | word
  /-- A character that starts no lexeme. -/
  | lone

namespace Form

/-- The kind of a token of the form. -/
def kind (language : Language) (text : String) : Form → TokenKind
  | blanks => .whitespace
  | line | block => .comment
  | triple | quoted => .string
  | integer | decimal => .number
  | double | single => .operator
  | word => if language.isKeyword text then .keyword else .identifier
  | lone => .unknown

/-- The forms that the tokens of a kind have. -/
def ofKind : TokenKind → List Form
  | .whitespace => [blanks]
  | .comment => [line, block]
  | .string => [triple, quoted]
  | .number => [integer, decimal]
  | .operator => [double, single]
  | .keyword | .identifier => [word]
  | .unknown => [lone]

theorem mem_ofKind {form : Form} {kind : TokenKind} {text : String}
    (h : kind = form.kind language text) : form ∈ ofKind kind := by
  subst h
  cases form with
  | word =>
    rw [Form.kind]
    split <;> exact List.mem_singleton_self _
  | _ => simp [Form.kind, ofKind]

/-- Whether a text has the form, seen alone. -/
def Fits (language : Language) : Form → List Char → Prop
  | blanks, x => x ≠ [] ∧ ∀ c ∈ x, isSourceBlank c = true
  | line, x => language.lineMark <+: x ∧ '\n' ∉ x
  | block, x => language = .cLike ∧ splitDelimited? ['/', '*'] ['*', '/'] x = some (x, [])
  | triple, x => splitTriple? language x = some (x, [])
  | quoted, x => splitQuoted? x = some (x, [])
  | integer, x => Digits x
  | decimal, x => ∃ a b, x = a ++ '.' :: b ∧ Digits a ∧ Digits b
  | double, x => String.ofList x ∈ doubleOperators
  | single, x => ∃ a ∈ singleOperators.toList, x = [a]
  | word, x => ∃ c t, x = c :: t ∧ isWordStart c = true ∧ ∀ d ∈ t, isWordChar d = true
  | lone, x => ∃ c, x = [c] ∧ isSourceBlank c = false ∧ c ∉ singleOperators.toList ∧
      isWordStart c = false ∧ ¬language.lineMark <+: x

/-- Whether a text of the form is the whole token in front of the rest. -/
def Ends (language : Language) : Form → List Char → List Char → Prop
  | blanks, _, rest => ∀ c ∈ rest.head?, isSourceBlank c = false
  | line, _, rest => ∀ c ∈ rest.head?, c = '\n'
  | block, _, _ | triple, _, _ | double, _, _ => True
  | quoted, x, rest => splitTriple? language (x ++ rest) = none
  | integer, _, rest => atWordBoundary rest = true ∧ splitFraction? rest = none
  | decimal, _, rest | word, _, rest => atWordBoundary rest = true
  | single, x, rest => (∀ b ∈ rest.head?, String.ofList (x ++ [b]) ∉ doubleOperators) ∧
      splitComment? language (x ++ rest) = none
  | lone, x, rest => splitNumber? (x ++ rest) = none ∧ splitQuoted? (x ++ rest) = none

end Form

/-! ## From the rules to a form -/

theorem exists_form_of_lexeme? {kind : TokenKind}
    (h : lexeme? language s = some (kind, x, rest)) :
    x ++ rest = s ∧ ∃ form : Form, classify language kind (String.ofList x) =
      form.kind language (String.ofList x) ∧ form.Fits language x ∧ form.Ends language x rest := by
  rw [lexeme?_eq] at h
  simp only [Option.or_eq_some_iff, Option.map_eq_some_iff, Option.map_eq_none_iff,
    Prod.mk.injEq, exists_eq_right_right] at h
  rcases h with ⟨h, rfl⟩ | ⟨-, ⟨h, rfl⟩ | ⟨hc, ⟨h | ⟨ht, h⟩, rfl⟩ | ⟨-, ⟨h, rfl⟩ | ⟨-, ⟨h, rfl⟩ |
    ⟨-, h, rfl⟩⟩⟩⟩⟩
  · obtain ⟨hs, hx, hr⟩ := splitBlanks?_eq_some_iff.1 h
    exact ⟨hs, .blanks, rfl, hx, hr⟩
  · rcases splitComment?_eq_some_iff.1 h with ⟨hs, hx, hr⟩ | ⟨hl, h⟩
    · exact ⟨hs, .line, rfl, hx, hr⟩
    · refine ⟨append_of_splitDelimited? h, .block, rfl, ⟨hl, ?_⟩, trivial⟩
      simpa only [List.append_nil] using splitDelimited?_append h []
  · obtain ⟨hl, q, hq, h⟩ := splitTriple?_eq_some_iff.1 h
    refine ⟨append_of_splitDelimited? h, .triple, rfl, ?_, trivial⟩
    refine splitTriple?_eq_some_iff.2 ⟨hl, q, hq, ?_⟩
    simpa only [List.append_nil] using splitDelimited?_append h []
  · have hs := append_of_splitQuoted? h
    refine ⟨hs, .quoted, rfl, ?_, by rwa [Form.Ends, hs]⟩
    simpa only [Form.Fits, List.append_nil] using splitQuoted?_append h []
  · obtain ⟨hs, hw, ⟨hx, hf⟩ | hx⟩ := splitNumber?_eq_some_iff.1 h
    · exact ⟨hs, .integer, rfl, hx, hw, hf⟩
    · exact ⟨hs, .decimal, rfl, hx, hw⟩
  · obtain ⟨hs, hx | ⟨a, ha, rfl, hb⟩⟩ := splitOperator?_eq_some_iff.1 h
    · exact ⟨hs, .double, rfl, hx, trivial⟩
    · exact ⟨hs, .single, rfl, ⟨a, ha, rfl⟩, hb, by rwa [hs]⟩
  · obtain ⟨hs, hx, hw⟩ := splitIdentifier?_eq_some_iff.1 h
    refine ⟨hs, .word, ?_, hx, hw⟩
    simp [classify, Form.kind]

theorem form_lone_of_lexeme? {c : Char} (h : lexeme? language (c :: rest) = none) :
    Form.lone.Fits language [c] ∧ Form.lone.Ends language [c] rest := by
  rw [lexeme?_eq] at h
  simp only [Option.or_eq_none_iff, Option.map_eq_none_iff] at h
  obtain ⟨hb, hc, ⟨-, hq⟩, hn, ho, hi⟩ := h
  refine ⟨⟨c, rfl, ?_, splitOperator?_cons_eq_none_iff.1 ho,
    splitIdentifier?_cons_eq_none_iff.1 hi, ?_⟩, hn, hq⟩
  · rw [splitBlanks?_eq_none_iff] at hb
    exact hb c rfl
  · intro hp
    exact (splitComment?_eq_none_iff.1 hc).1 (hp.trans (List.prefix_append [c] rest))

/-! ## From a form to the rules -/

theorem splitBlanks?_cons_eq_none {c : Char} (hc : isSourceBlank c = false) (s : List Char) :
    splitBlanks? (c :: s) = none :=
  splitBlanks?_eq_none_iff.2 fun _ h => Option.some.inj h ▸ hc

theorem splitComment?_cons_eq_none {c : Char} (h₁ : c ≠ '/') (h₂ : c ≠ '#') (s : List Char) :
    splitComment? language (c :: s) = none := by
  rw [splitComment?_eq_none_iff]
  constructor
  · cases language <;> simp [Language.lineMark, h₁.symm, h₂.symm]
  · rintro - inner h
    exact absurd (List.cons.inj h).1 h₁

theorem splitComment?_operator_eq_none {a : Char} (ha : a ∈ singleOperators.toList)
    (h : language = .cLike → a = '/' → ∀ b ∈ rest.head?, b ≠ '/' ∧ b ≠ '*') :
    splitComment? language (a :: rest) = none := by
  rw [splitComment?_eq_none_iff]
  constructor
  · intro hp
    cases language with
    | cLike =>
      obtain ⟨r, hr⟩ := hp
      obtain ⟨ha, hr⟩ := List.cons.inj hr
      exact (h rfl ha.symm '/' (by rw [← hr]; rfl)).1 rfl
    | python =>
      obtain ⟨r, hr⟩ := hp
      obtain ⟨-, -, -, -, hh, -⟩ := of_mem_singleOperators ha
      exact hh (List.cons.inj hr).1.symm
  · rintro hl inner hr
    obtain ⟨ha, hr⟩ := List.cons.inj hr
    exact absurd rfl (h hl ha '*' (by rw [hr]; rfl)).2

theorem splitTriple?_cons_eq_none {c : Char} (h₁ : c ≠ '"') (h₂ : c ≠ '\'') (s : List Char) :
    splitTriple? language (c :: s) = none := by
  rw [splitTriple?_eq_none_iff]
  rintro - q hq inner h
  obtain rfl := (List.cons.inj h).1
  rcases hq with hq | hq
  · exact absurd hq h₁
  · exact absurd hq h₂

theorem splitNumber?_cons_eq_none {c : Char} (hc : c.isDigit = false) (s : List Char) :
    splitNumber? (c :: s) = none :=
  splitNumber?_eq_none_iff.2 (.inl fun _ h => Option.some.inj h ▸ hc)

/-- Two quotes in a row are a string at once. -/
theorem splitTriple?_eq_none_of_splitQuoted? (h : splitQuoted? s = none) :
    splitTriple? language s = none := by
  rw [splitTriple?_eq_none_iff]
  rintro - q hq inner rfl
  have hclose := closeQuote?_quote (ne_backslash_of_quote hq) (q :: inner)
  have hs := splitQuoted?_eq_some_iff.2 ⟨q, _, _, rfl, hq, hclose, rfl⟩
  rw [h] at hs
  cases hs

theorem Form.lexeme?_lone (hf : Form.lone.Fits language x) (he : Form.lone.Ends language x rest) :
    lexeme? language (x ++ rest) = none := by
  obtain ⟨c, rfl, hb, ho, hw, hc⟩ := hf
  obtain ⟨hn, hq⟩ := he
  have hcomment : splitComment? language ([c] ++ rest) = none := by
    rw [splitComment?_eq_none_iff]
    have hslash : c ≠ '/' := by
      rintro rfl
      exact ho (by decide)
    constructor
    · cases language with
      | cLike => simp [Language.lineMark, hslash.symm]
      | python => simpa [Language.lineMark] using hc
    · rintro - inner h
      exact absurd (List.cons.inj h).1 hslash
  rw [lexeme?_eq, hcomment, hn, hq, splitTriple?_eq_none_of_splitQuoted? hq]
  simp only [List.cons_append, List.nil_append, splitBlanks?_cons_eq_none hb,
    splitOperator?_cons_eq_none_iff.2 ho, splitIdentifier?_cons_eq_none_iff.2 hw]
  rfl

/-- Behind a word character the rules go straight to numbers. -/
theorem lexeme?_of_isWordChar {c : Char} (hc : isWordChar c = true) (s : List Char) :
    lexeme? language (c :: s) =
      ((splitNumber? (c :: s)).map fun split => (.number, split)).or
        ((splitIdentifier? (c :: s)).map fun split => (.identifier, split)) := by
  obtain ⟨ho, hq₁, hq₂, hs, hh⟩ := of_isWordChar hc
  rw [lexeme?_eq, splitBlanks?_cons_eq_none (isVisible_of_isWordChar hc).not_blank,
    splitComment?_cons_eq_none hs hh, splitTriple?_cons_eq_none hq₁ hq₂,
    splitQuoted?_eq_none_of_ne hq₁ hq₂, splitOperator?_cons_eq_none_iff.2 ho]
  rfl

theorem lexeme?_of_digits {t : List Char} (hx : Digits x)
    (h : splitNumber? (x ++ t) = some (s, rest)) :
    lexeme? language (x ++ t) = some (.number, s, rest) := by
  obtain ⟨c, x, rfl⟩ := List.exists_cons_of_ne_nil hx.1
  have hc := hx.2 c List.mem_cons_self
  rw [List.cons_append] at h ⊢
  rw [lexeme?_of_isWordChar (isWordChar_of_isDigit hc), h]
  rfl

/-- Behind the first character of an operator that opens no comment there is an operator. -/
theorem lexeme?_of_operator {a : Char} {t : List Char} (ha : a ∈ singleOperators.toList)
    (hc : splitComment? language (a :: t) = none)
    (h : splitOperator? (a :: t) = some (x, rest)) :
    lexeme? language (a :: t) = some (.operator, x, rest) := by
  obtain ⟨hv, hw, hq₁, hq₂, -, -⟩ := of_mem_singleOperators ha
  have hd := isDigit_eq_false_of_isWordChar hw
  rw [lexeme?_eq, splitBlanks?_cons_eq_none hv.not_blank, hc, splitTriple?_cons_eq_none hq₁ hq₂,
    splitQuoted?_eq_none_of_ne hq₁ hq₂, splitNumber?_cons_eq_none hd, h]
  rfl

theorem lexeme?_of_splitComment? {c : Char} {t : List Char} (hv : IsVisible c)
    (h : splitComment? language (c :: t) = some (x, rest)) :
    lexeme? language (c :: t) = some (.comment, x, rest) := by
  rw [lexeme?_eq, splitBlanks?_cons_eq_none hv.not_blank, h]
  rfl

theorem lexeme?_of_quote {q : Char} {t : List Char} (hq : q = '"' ∨ q = '\'')
    (h : (splitTriple? language (q :: t)).or (splitQuoted? (q :: t)) = some (x, rest)) :
    lexeme? language (q :: t) = some (.string, x, rest) := by
  have hv := isVisible_of_quote hq
  have hc : splitComment? language (q :: t) = none := by
    rcases hq with rfl | rfl <;> exact splitComment?_cons_eq_none (by decide) (by decide) t
  rw [lexeme?_eq, splitBlanks?_cons_eq_none hv.not_blank, hc, h]
  rfl

theorem lexeme?_of_mem_doubleOperators (hx : String.ofList x ∈ doubleOperators)
    (rest : List Char) : lexeme? language (x ++ rest) = some (.operator, x, rest) := by
  have hs : splitOperator? (x ++ rest) = some (x, rest) :=
    splitOperator?_eq_some_iff.2 ⟨rfl, .inl hx⟩
  obtain ⟨a, ha, b, hb, hab⟩ := of_mem_doubleOperators hx
  rw [String.toList_ofList] at hab
  subst hab
  apply lexeme?_of_operator ha _ hs
  apply splitComment?_operator_eq_none ha
  intro _ _ c hc
  obtain rfl : b = c := Option.some.inj hc
  constructor
  · rintro rfl
    exact absurd hb (by decide)
  · rintro rfl
    exact absurd hb (by decide)

theorem lexeme?_of_word {c : Char} {t : List Char} (hc : isWordStart c = true)
    (ht : ∀ d ∈ t, isWordChar d = true) (hr : atWordBoundary rest = true) :
    lexeme? language (c :: t ++ rest) = some (.identifier, c :: t, rest) := by
  have hs : splitIdentifier? (c :: t ++ rest) = some (c :: t, rest) :=
    splitIdentifier?_eq_some_iff.2 ⟨rfl, ⟨c, t, rfl, hc, ht⟩, hr⟩
  rw [List.cons_append] at hs ⊢
  rw [lexeme?_of_isWordChar (isWordChar_of_isWordStart hc),
    splitNumber?_cons_eq_none (isDigit_eq_false_of_isWordStart hc), hs]
  rfl

/-- A form that fits and ends is what the rules cut off. -/
theorem Form.exists_lexeme? {form : Form} (hl : form ≠ .lone) (hf : form.Fits language x)
    (he : form.Ends language x rest) :
    ∃ kind, lexeme? language (x ++ rest) = some (kind, x, rest) ∧
      classify language kind (String.ofList x) = form.kind language (String.ofList x) := by
  cases form with
  | blanks =>
    refine ⟨.whitespace, ?_, rfl⟩
    rw [lexeme?_eq, splitBlanks?_eq_some_iff.2 ⟨rfl, hf, he⟩]
    rfl
  | line =>
    refine ⟨.comment, ?_, rfl⟩
    have hs := splitComment?_eq_some_iff.2 (.inl ⟨rfl, hf, he⟩)
    obtain ⟨t, rfl⟩ := hf.1
    cases language with
    | cLike => exact lexeme?_of_splitComment? (by decide) hs
    | python => exact lexeme?_of_splitComment? (by decide) hs
  | block =>
    refine ⟨.comment, ?_, rfl⟩
    have hs := splitComment?_eq_some_iff.2 (.inr ⟨hf.1, splitDelimited?_append hf.2 rest⟩)
    obtain ⟨inner, body, -, -, rfl⟩ := splitDelimited?_eq_some_iff.1 hf.2
    exact lexeme?_of_splitComment? (by decide) hs
  | triple =>
    refine ⟨.string, ?_, rfl⟩
    obtain ⟨hp, q, hq, h⟩ := splitTriple?_eq_some_iff.1 hf
    have hs : (splitTriple? language (x ++ rest)).or (splitQuoted? (x ++ rest)) = some (x, rest) := by
      rw [splitTriple?_eq_some_iff.2 ⟨hp, q, hq, splitDelimited?_append h rest⟩, Option.some_or]
    obtain ⟨inner, body, -, -, rfl⟩ := splitDelimited?_eq_some_iff.1 h
    exact lexeme?_of_quote hq hs
  | quoted =>
    refine ⟨.string, ?_, rfl⟩
    have hs : (splitTriple? language (x ++ rest)).or (splitQuoted? (x ++ rest)) = some (x, rest) := by
      rw [he, splitQuoted?_append hf rest, Option.none_or]
    obtain ⟨q, t, body, -, hq, -, rfl⟩ := splitQuoted?_eq_some_iff.1 hf
    exact lexeme?_of_quote hq hs
  | integer =>
    refine ⟨.number, ?_, rfl⟩
    exact lexeme?_of_digits hf (splitNumber?_eq_some_iff.2 ⟨rfl, he.1, .inl ⟨hf, he.2⟩⟩)
  | decimal =>
    refine ⟨.number, ?_, rfl⟩
    have hs := splitNumber?_eq_some_iff.2 ⟨rfl, he, .inr hf⟩
    obtain ⟨a, b, rfl, ha, hb⟩ := hf
    rw [List.append_assoc] at hs ⊢
    exact lexeme?_of_digits ha hs
  | double => exact ⟨.operator, lexeme?_of_mem_doubleOperators hf rest, rfl⟩
  | single =>
    refine ⟨.operator, ?_, rfl⟩
    obtain ⟨a, ha, rfl⟩ := hf
    exact lexeme?_of_operator ha he.2 (splitOperator?_eq_some_iff.2 ⟨rfl, .inr ⟨a, ha, rfl, he.1⟩⟩)
  | word =>
    obtain ⟨c, t, rfl, hc, ht⟩ := hf
    exact ⟨.identifier, lexeme?_of_word hc ht he, by simp [classify, Form.kind]⟩
  | lone => exact absurd rfl hl

/-! ## First tokens -/

theorem nextToken?_of_lexeme? {kind : TokenKind} (h : lexeme? language s = some (kind, x, rest)) :
    nextToken? language s =
      some (⟨classify language kind (String.ofList x), String.ofList x⟩, rest) := by
  obtain ⟨hs, hx⟩ := append_of_lexeme? h
  cases s with
  | nil => exact absurd (List.append_eq_nil_iff.1 hs).1 hx
  | cons c s => simp only [nextToken?, h]

theorem nextToken?_of_lexeme?_eq_none {c : Char} (h : lexeme? language (c :: s) = none) :
    nextToken? language (c :: s) = some (⟨.unknown, String.singleton c⟩, s) := by
  simp only [nextToken?, h]

theorem nextToken?_point (s : List Char) :
    nextToken? language ('.' :: s) = some (⟨.operator, "."⟩, s) := by
  have hc : splitComment? language ('.' :: s) = none :=
    splitComment?_cons_eq_none (by decide) (by decide) s
  have hd : ∀ op ∈ doubleOperators, op.toList.head? ≠ some '.' := by decide
  have ho : splitOperator? ('.' :: s) = some (['.'], s) := by
    refine splitOperator?_eq_some_iff.2 ⟨rfl, .inr ⟨'.', by decide, rfl, ?_⟩⟩
    intro b _ hm
    exact hd _ hm (by rw [String.toList_ofList]; rfl)
  have hl : lexeme? language ('.' :: s) = some (.operator, ['.'], s) :=
    lexeme?_of_operator (by decide) hc ho
  exact nextToken?_of_lexeme? hl

theorem kind_of_isSourceBlank {c : Char} {t : Token} (hc : isSourceBlank c = true)
    (h : nextToken? language (c :: s) = some (t, rest)) : t.kind = .whitespace := by
  cases hb : splitBlanks? (c :: s) with
  | none =>
    rw [splitBlanks?_eq_none_iff.1 hb c rfl] at hc
    cases hc
  | some split =>
    have hl : lexeme? language (c :: s) = some (.whitespace, split) := by
      rw [lexeme?_eq, hb]
      rfl
    rw [nextToken?_of_lexeme? hl] at h
    cases h
    rfl

theorem kind_of_isDigit {c : Char} {t : Token} (hc : c.isDigit = true)
    (h : nextToken? language (c :: s) = some (t, rest)) :
    t.kind = .number ∨ t.kind = .unknown := by
  have hi : splitIdentifier? (c :: s) = none :=
    splitIdentifier?_cons_eq_none_iff.2 (isWordStart_eq_false_of_isDigit hc)
  have hl : lexeme? language (c :: s) = _ := lexeme?_of_isWordChar (isWordChar_of_isDigit hc) s
  rw [hi, Option.map_none, Option.or_none] at hl
  cases hn : splitNumber? (c :: s) with
  | none =>
    rw [hn] at hl
    rw [nextToken?_of_lexeme?_eq_none hl] at h
    cases h
    exact .inr rfl
  | some split =>
    rw [hn] at hl
    rw [nextToken?_of_lexeme? hl] at h
    cases h
    exact .inl rfl

/-- The token has a form that fits its text and ends before the rest. -/
def Token.Stands (language : Language) (t : Token) (rest : List Char) : Prop :=
  ∃ form : Form, t.kind = form.kind language t.text ∧ form.Fits language t.text.toList ∧
    form.Ends language t.text.toList rest

/-- A token has one of the forms of its kind. -/
theorem Token.Stands.exists_form {kind : TokenKind} {t : Token} (h : t.Stands language rest)
    (hk : t.kind = kind) : ∃ form ∈ Form.ofKind kind,
      form.Fits language t.text.toList ∧ form.Ends language t.text.toList rest := by
  obtain ⟨form, hform, hf, he⟩ := h
  exact ⟨form, Form.mem_ofKind (hk.symm.trans hform), hf, he⟩

theorem nextToken?_eq_some_iff {t : Token} :
    nextToken? language s = some (t, rest) ↔
      t.text.toList ++ rest = s ∧ t.Stands language rest := by
  constructor
  · intro h
    cases s with
    | nil => cases h
    | cons c s =>
      cases hl : lexeme? language (c :: s) with
      | none =>
        rw [nextToken?_of_lexeme?_eq_none hl] at h
        cases h
        have hlone := form_lone_of_lexeme? hl
        rw [← String.toList_singleton] at hlone
        refine ⟨?_, .lone, rfl, hlone⟩
        rw [String.toList_singleton]
        rfl
      | some split =>
        obtain ⟨kind, x, r⟩ := split
        rw [nextToken?_of_lexeme? hl] at h
        cases h
        obtain ⟨hs, form, hk, hf, he⟩ := exists_form_of_lexeme? hl
        refine ⟨?_, form, hk, ?_, ?_⟩ <;> rwa [String.toList_ofList]
  · rintro ⟨rfl, form, hk, hf, he⟩
    by_cases hl : form = .lone
    · subst hl
      have h := Form.lexeme?_lone hf he
      obtain ⟨c, hc, -⟩ := hf
      rw [hc, List.cons_append, List.nil_append] at h ⊢
      rw [nextToken?_of_lexeme?_eq_none h]
      have ht : t = ⟨.unknown, String.singleton c⟩ := by
        obtain ⟨k, text⟩ := t
        rw [← String.toList_singleton, String.toList_inj] at hc
        exact congrArg₂ Token.mk hk hc
      rw [ht]
    · obtain ⟨kind, h, hc⟩ := Form.exists_lexeme? hl hf he
      rw [nextToken?_of_lexeme? h, hc, String.ofList_toList, ← hk]

end SourceLens
