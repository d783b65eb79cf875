import SourceLens.Proofs.Lexeme.Lead

/-! # What each pattern cuts off

For every pattern: when it matches, when it does not, and how much of the text behind the lexeme
takes part in the decision. Comments and strings depend on their own text only; numbers,
operators and words also on the characters where they end. -/
namespace SourceLens.Pattern

open Text

variable {s x rest opener closer : List Char} {quote : Char}

theorem matchLength?_eq_some_iff {pattern : Pattern} {source : String} {n : Nat} :
    pattern.matchLength? source = some n ↔
      ∃ x rest, pattern.split? source.toList = some (x, rest) ∧ utf8Length x = n := by
  rw [matchLength?, Option.map_eq_some_iff]
  constructor
  · rintro ⟨⟨x, rest⟩, h⟩
    exact ⟨x, rest, h⟩
  · rintro ⟨x, rest, h⟩
    exact ⟨(x, rest), h⟩

/-! ## Delimited text -/

theorem splitDelimited?_eq_some_iff :
    splitDelimited? opener closer s = some (x, rest) ↔
      ∃ inner body, s = opener ++ inner ∧ splitThrough? closer inner = some (body, rest) ∧
        x = opener ++ body := by
  constructor
  · intro h
    obtain ⟨inner, hi, h⟩ := Option.bind_eq_some_iff.1 h
    obtain ⟨⟨body, r⟩, hb, h⟩ := Option.map_eq_some_iff.1 h
    cases h
    exact ⟨inner, body, behind?_eq_some_iff.1 hi, hb, rfl⟩
  · rintro ⟨inner, body, rfl, hb, rfl⟩
    rw [splitDelimited?, behind?_eq_some_iff.2 rfl, Option.bind_some, hb, Option.map_some]

theorem splitDelimited?_eq_none_iff :
    splitDelimited? opener closer s = none ↔ ∀ inner, s = opener ++ inner → ¬closer <:+: inner := by
  constructor
  · rintro h inner rfl
    rw [splitDelimited?, behind?_eq_some_iff.2 rfl, Option.bind_some, Option.map_eq_none_iff] at h
    exact splitThrough?_eq_none_iff.1 h
  · intro h
    cases hb : behind? opener s with
    | none => rw [splitDelimited?, hb, Option.bind_none]
    | some inner =>
      rw [splitDelimited?, hb, Option.bind_some, Option.map_eq_none_iff]
      exact splitThrough?_eq_none_iff.2 (h inner (behind?_eq_some_iff.1 hb))

theorem splitDelimited?_append (h : splitDelimited? opener closer s = some (x, rest))
    (r : List Char) : splitDelimited? opener closer (x ++ r) = some (x, r) := by
  obtain ⟨inner, body, -, hb, rfl⟩ := splitDelimited?_eq_some_iff.1 h
  exact splitDelimited?_eq_some_iff.2
    ⟨body ++ r, body, List.append_assoc opener body r, splitThrough?_append hb r, rfl⟩

/-! ## Line comments -/

theorem split?_lineComment_eq_none_iff {mark : String} :
    (lineComment mark).split? s = none ↔ ¬mark.toList <+: s := by
  rw [split?, Option.map_eq_none_iff, behind?_eq_none_iff]

/-- A line comment is a text without line feed that a line feed, or nothing, follows. -/
theorem split?_lineComment_eq_some_iff {mark : String} (hm : '\n' ∉ mark.toList) :
    (lineComment mark).split? s = some (x, rest) ↔
      x ++ rest = s ∧ mark.toList <+: x ∧ '\n' ∉ x ∧ ∀ c ∈ rest.head?, c = '\n' := by
  have hrun : run (· != '\n') s = (x, rest) ↔
      x ++ rest = s ∧ '\n' ∉ x ∧ ∀ c ∈ rest.head?, c = '\n' := by
    have hx : (∀ c ∈ x, (c != '\n') = true) ↔ '\n' ∉ x := by
      simp only [bne_iff_ne]
      exact ⟨fun h hc => h _ hc rfl, fun h c hc e => h (e ▸ hc)⟩
    rw [run_eq_iff, hx]
    simp only [bne_eq_false_iff_eq]
  rw [split?, Option.map_eq_some_iff]
  constructor
  · rintro ⟨inner, hb, h⟩
    obtain ⟨rfl, hx, hr⟩ := hrun.1 h
    refine ⟨rfl, ?_, hx, hr⟩
    have hp : mark.toList <+: x ++ rest := ⟨inner, (behind?_eq_some_iff.1 hb).symm⟩
    rcases List.prefix_or_prefix_of_prefix hp (List.prefix_append x rest) with h | ⟨t, ht⟩
    · exact h
    · obtain ⟨u, hu⟩ := hp
      rw [← ht, List.append_assoc, List.append_cancel_left_eq] at hu
      cases t with
      | nil => exact ⟨[], by rw [← ht, List.append_nil, List.append_nil]⟩
      | cons d t =>
        have hd : d = '\n' := hr d (by rw [← hu]; rfl)
        exact absurd (ht ▸ List.mem_append_right x (hd ▸ List.mem_cons_self)) hm
  · rintro ⟨rfl, hp, hx, hr⟩
    obtain ⟨t, rfl⟩ := hp
    exact ⟨t ++ rest, behind?_eq_some_iff.2 (List.append_assoc _ t rest), hrun.2 ⟨rfl, hx, hr⟩⟩

/-! ## Quoted strings -/

theorem closeQuote?_escape (quote e : Char) (s : List Char) :
    closeQuote? quote ('\\' :: e :: s) =
      (closeQuote? quote s).map fun (body, rest) => ('\\' :: e :: body, rest) := by
  rw [closeQuote?.eq_def]
  simp

theorem closeQuote?_quote (hq : quote ≠ '\\') (s : List Char) :
    closeQuote? quote (quote :: s) = some ([quote], s) := by
  rw [closeQuote?.eq_def]
  simp [hq]

theorem closeQuote?_of_ne {c : Char} (hc : c ≠ '\\') (hq : c ≠ quote) (s : List Char) :
    closeQuote? quote (c :: s) = (closeQuote? quote s).map fun (body, rest) => (c :: body, rest) := by
  rw [closeQuote?.eq_def]
  simp [hc, hq]

theorem closeQuote?_append (h : closeQuote? quote s = some (x, rest)) (r : List Char) :
    closeQuote? quote (x ++ r) = some (x, r) := by
  fun_induction closeQuote? quote s generalizing x with
  | case1 => cases h
  | case2 => cases h
  | case3 e s ih =>
    obtain ⟨⟨b, t⟩, hb, h⟩ := Option.map_eq_some_iff.1 h
    cases h
    rw [List.cons_append, List.cons_append, closeQuote?_escape, ih hb, Option.map_some]
  | case4 s hq =>
    cases h
    exact closeQuote?_quote hq r
  | case5 c s hc hq ih =>
    obtain ⟨⟨b, t⟩, hb, h⟩ := Option.map_eq_some_iff.1 h
    cases h
    rw [List.cons_append, closeQuote?_of_ne hc hq, ih hb, Option.map_some]

/-- A search that fails must have passed every later quote by as an escaped one, so it goes on
behind that quote just as a search that starts there. -/
theorem closeQuote?_eq_none_of_append (hq : quote ≠ '\\')
    (h : closeQuote? quote (x ++ quote :: s) = none) : closeQuote? quote s = none := by
  fun_induction closeQuote? quote x with
  | case1 =>
    rw [List.nil_append, closeQuote?_quote hq] at h
    cases h
  | case2 => rwa [List.cons_append, List.nil_append, closeQuote?_escape, Option.map_eq_none_iff] at h
  | case3 e x ih =>
    rw [List.cons_append, List.cons_append, closeQuote?_escape, Option.map_eq_none_iff] at h
    exact ih h
  | case4 x _ =>
    rw [List.cons_append, closeQuote?_quote hq] at h
    cases h
  | case5 c x hc hcq ih =>
    rw [List.cons_append, closeQuote?_of_ne hc hcq, Option.map_eq_none_iff] at h
    exact ih h

theorem splitQuoted?_eq_some_iff :
    splitQuoted? s = some (x, rest) ↔
      ∃ q t body, s = q :: t ∧ (q = '"' ∨ q = '\'') ∧ closeQuote? q t = some (body, rest) ∧
        x = q :: body := by
  cases s with
  | nil => simp [splitQuoted?]
  | cons c s =>
    simp only [splitQuoted?]
    split
    · next hq =>
      rw [Option.map_eq_some_iff]
      constructor
      · rintro ⟨⟨body, r⟩, hb, h⟩
        cases h
        exact ⟨c, s, body, rfl, hq, hb, rfl⟩
      · rintro ⟨q, t, body, h, -, hb, rfl⟩
        cases h
        exact ⟨(body, rest), hb, rfl⟩
    · next hq =>
      constructor
      · intro h; cases h
      · rintro ⟨q, t, body, h, hc, -, -⟩
        cases h
        exact absurd hc hq

theorem splitQuoted?_append (h : splitQuoted? s = some (x, rest)) (r : List Char) :
    splitQuoted? (x ++ r) = some (x, r) := by
  obtain ⟨q, t, body, -, hq, hb, rfl⟩ := splitQuoted?_eq_some_iff.1 h
  exact splitQuoted?_eq_some_iff.2 ⟨q, body ++ r, body, rfl, hq, closeQuote?_append hb r, rfl⟩

theorem splitQuoted?_eq_none_iff :
    splitQuoted? s = none ↔
      ∀ q t, s = q :: t → (q = '"' ∨ q = '\'') → closeQuote? q t = none := by
  cases s with
  | nil => simp [splitQuoted?]
  | cons c s => by_cases hc : c = '"' ∨ c = '\'' <;> simp [splitQuoted?, hc]

theorem splitQuoted?_eq_none_of_ne {c : Char} (h₁ : c ≠ '"') (h₂ : c ≠ '\'') (s : List Char) :
    splitQuoted? (c :: s) = none := by
  simp [splitQuoted?, h₁, h₂]

/-- A string whose quote comes twice at its start, alone or with what follows it, is empty. -/
theorem eq_of_splitQuoted?_of_append_eq (h : splitQuoted? x = some (x, []))
    (hq : x ++ rest = quote :: quote :: s) : x = [quote, quote] := by
  obtain ⟨q, t, body, rfl, hquote, hb, hx⟩ := splitQuoted?_eq_some_iff.1 h
  obtain ⟨rfl, ht⟩ := List.cons.inj hq
  cases t with
  | nil => cases hb
  | cons c t =>
    obtain ⟨rfl, -⟩ := List.cons.inj ht
    rw [closeQuote?_quote (ne_backslash_of_quote hquote)] at hb
    cases hb
    exact hx

/-! ## Numbers -/

/-- One ASCII digit or more, and nothing else. -/
def Digits (x : List Char) : Prop := x ≠ [] ∧ ∀ c ∈ x, c.isDigit = true

/-- The digits at the start of the text, if any, run into a letter or an underscore. -/
def RunsIntoWord (s : List Char) : Prop := atWordBoundary (s.dropWhile Char.isDigit) = false

theorem atWordBoundary_iff : atWordBoundary s = true ↔ ∀ c ∈ s.head?, isWordChar c = false := by
  cases s <;> simp [atWordBoundary]

theorem isDigit_head_of_atWordBoundary (h : atWordBoundary s = true) :
    ∀ c ∈ s.head?, c.isDigit = false := by
  intro c hc
  exact isDigit_eq_false_of_isWordChar (atWordBoundary_iff.1 h c hc)

theorem run_digits (hx : ∀ c ∈ x, c.isDigit = true) (hb : atWordBoundary rest = true) :
    run Char.isDigit (x ++ rest) = (x, rest) :=
  run_eq_iff.2 ⟨rfl, hx, isDigit_head_of_atWordBoundary hb⟩

/-- Digits in front do not change what the digits run into. -/
theorem runsIntoWord_append (hx : ∀ c ∈ x, c.isDigit = true) :
    RunsIntoWord (x ++ s) ↔ RunsIntoWord s := by
  rw [RunsIntoWord, RunsIntoWord, List.dropWhile_append_of_pos hx]

theorem not_runsIntoWord_of_atWordBoundary (h : atWordBoundary s = true) : ¬RunsIntoWord s := by
  have hd : s.dropWhile Char.isDigit = s := by
    cases s with
    | nil => rfl
    | cons c s => simp [isDigit_head_of_atWordBoundary h c rfl]
  rw [RunsIntoWord, hd, h]
  exact Bool.noConfusion

/-- Digits run into a word where a letter or an underscore follows them. -/
theorem runsIntoWord_iff :
    RunsIntoWord s ↔
      ∃ x d rest, (∀ c ∈ x, c.isDigit = true) ∧ isWordStart d = true ∧ s = x ++ d :: rest := by
  constructor
  · intro h
    obtain ⟨hs, hx, hr⟩ := run_eq_iff.1 (Eq.refl (run Char.isDigit s))
    rw [RunsIntoWord] at h
    cases hd : s.dropWhile Char.isDigit with
    | nil =>
      rw [hd] at h
      cases h
    | cons d rest =>
      rw [hd] at h hs hr
      have hw : isWordChar d = true := by simpa [atWordBoundary] using h
      have hdigit : d.isDigit = false := hr d rfl
      refine ⟨_, d, rest, hx, (isWordChar_iff.1 hw).resolve_right ?_, hs.symm⟩
      rw [hdigit]
      exact Bool.noConfusion
  · rintro ⟨x, d, rest, hx, hd, rfl⟩
    rw [runsIntoWord_append hx, RunsIntoWord,
      List.dropWhile_cons_of_neg (Bool.eq_false_iff.1 (isDigit_eq_false_of_isWordStart hd))]
    simp [atWordBoundary, isWordChar_of_isWordStart hd]

theorem splitFraction?_eq_some_iff :
    splitFraction? s = some (x, rest) ↔
      x ++ rest = s ∧ (∃ b, x = '.' :: b ∧ Digits b) ∧ atWordBoundary rest = true := by
  constructor
  · intro h
    unfold splitFraction? at h
    split at h
    · next t =>
      simp only at h
      split at h
      · next hd =>
        cases h
        obtain ⟨hs, hb, -⟩ := run_eq_iff.1 (Eq.refl (run Char.isDigit t))
        exact ⟨congrArg (List.cons '.') hs, ⟨_, rfl, hd.1, hb⟩, hd.2⟩
      · cases h
    · cases h
  · rintro ⟨rfl, ⟨b, rfl, hne, hb⟩, hr⟩
    simp only [List.cons_append, splitFraction?, run_digits hb hr]
    rw [if_pos ⟨hne, hr⟩]

theorem splitNumber?_eq_some_iff :
    splitNumber? s = some (x, rest) ↔
      x ++ rest = s ∧ atWordBoundary rest = true ∧
        (Digits x ∧ splitFraction? rest = none ∨
          ∃ a b, x = a ++ '.' :: b ∧ Digits a ∧ Digits b) := by
  constructor
  · intro h
    simp only [splitNumber?] at h
    obtain ⟨hs, ha, -⟩ := run_eq_iff.1 (Eq.refl (run Char.isDigit s))
    split at h
    · cases h
    · next hne =>
      split at h
      · next f r hf =>
        cases h
        obtain ⟨hr, ⟨b, rfl, hb⟩, hw⟩ := splitFraction?_eq_some_iff.1 hf
        refine ⟨?_, hw, .inr ⟨_, b, rfl, ⟨hne, ha⟩, hb⟩⟩
        rw [List.append_assoc, hr]
        exact hs
      · next hf =>
        split at h
        · next hw => cases h; exact ⟨hs, hw, .inl ⟨⟨hne, ha⟩, hf⟩⟩
        · cases h
  · rintro ⟨rfl, hw, ⟨hx, hf⟩ | ⟨a, b, rfl, ha, hb⟩⟩
    · simp only [splitNumber?, run_digits hx.2 hw]
      rw [if_neg hx.1, hf]
      simp [hw]
    · have hr : run Char.isDigit (a ++ '.' :: b ++ rest) = (a, '.' :: b ++ rest) := by
        rw [List.append_assoc]
        exact run_digits ha.2 rfl
      have hf : splitFraction? ('.' :: b ++ rest) = some ('.' :: b, rest) :=
        splitFraction?_eq_some_iff.2 ⟨rfl, ⟨b, rfl, hb⟩, hw⟩
      simp only [splitNumber?, hr]
      rw [if_neg ha.1, hf]

/-- There is no number where there is no digit, and where the digits run into a word. -/
theorem splitNumber?_eq_none_iff :
    splitNumber? s = none ↔ (∀ c ∈ s.head?, c.isDigit = false) ∨ RunsIntoWord s := by
  constructor
  · intro h
    by_contra hc
    rw [not_or, ← run_fst_eq_nil_iff, RunsIntoWord, Bool.not_eq_false] at hc
    obtain ⟨hne, hw⟩ := hc
    simp only [splitNumber?] at h
    rw [if_neg hne] at h
    split at h
    · cases h
    · exact absurd h (by simp [run, hw])
  · intro h
    rw [Option.eq_none_iff_forall_ne_some]
    rintro ⟨x, r⟩ hx
    obtain ⟨rfl, hw, hx⟩ := splitNumber?_eq_some_iff.1 hx
    obtain ⟨a, t, rfl, ha, ht⟩ : ∃ a t, x = a ++ t ∧ Digits a ∧ atWordBoundary (t ++ r) = true := by
      rcases hx with ⟨hx, -⟩ | ⟨a, b, rfl, ha, -⟩
      · exact ⟨x, [], (List.append_nil x).symm, hx, hw⟩
      · exact ⟨a, '.' :: b, rfl, ha, rfl⟩
    rw [List.append_assoc] at h
    rcases h with h | h
    · obtain ⟨d, u, rfl⟩ := List.exists_cons_of_ne_nil ha.1
      have := h d rfl
      rw [ha.2 d List.mem_cons_self] at this
      cases this
    · exact not_runsIntoWord_of_atWordBoundary ht ((runsIntoWord_append ha.2).1 h)

/-- A digit belongs to no number only where its digits run into a word. -/
theorem splitNumber?_digit_eq_none_iff {c : Char} (hc : c.isDigit = true) :
    splitNumber? (c :: s) = none ↔ RunsIntoWord (c :: s) := by
  rw [splitNumber?_eq_none_iff, or_iff_right]
  intro h
  rw [h c rfl] at hc
  cases hc

/-- A point starts a fraction where a number could start behind it. -/
theorem splitFraction?_eq_none_iff :
    splitFraction? s = none ↔ ∀ t, s = '.' :: t → splitNumber? t = none := by
  have hpoint : ∀ t, splitFraction? ('.' :: t) = none ↔ splitNumber? t = none := by
    intro t
    rw [splitNumber?_eq_none_iff, splitFraction?, ite_eq_right_iff, ← run_fst_eq_nil_iff,
      RunsIntoWord]
    simp only [reduceCtorEq, imp_false, not_and, Bool.not_eq_true, ne_eq]
    exact or_iff_not_imp_left.symm
  constructor
  · rintro h t rfl
    exact (hpoint t).1 h
  · intro h
    unfold splitFraction?
    split
    · next t => exact (hpoint t).2 (h t rfl)
    · rfl

/-! ## Operators and words -/

/-- The double operator at the start of a text. -/
def splitDouble? (s : List Char) : Option (List Char × List Char) :=
  doubleOperators.findSome? fun op => (behind? op.toList s).map fun rest => (op.toList, rest)

theorem length_of_mem_doubleOperators {op : String} (h : op ∈ doubleOperators) :
    op.toList.length = 2 := by
  obtain ⟨a, -, b, -, hab⟩ := of_mem_doubleOperators h
  rw [hab]
  rfl

theorem splitDouble?_eq_some_iff :
    splitDouble? s = some (x, rest) ↔ x ++ rest = s ∧ String.ofList x ∈ doubleOperators := by
  have hsound : ∀ {x rest}, splitDouble? s = some (x, rest) →
      x ++ rest = s ∧ String.ofList x ∈ doubleOperators := by
    intro x rest h
    obtain ⟨op, hop, h⟩ := List.exists_of_findSome?_eq_some h
    obtain ⟨r, hr, h⟩ := Option.map_eq_some_iff.1 h
    cases h
    exact ⟨(behind?_eq_some_iff.1 hr).symm, by rwa [String.ofList_toList]⟩
  refine ⟨hsound, ?_⟩
  rintro ⟨rfl, hx⟩
  have hb : behind? (String.ofList x).toList (x ++ rest) = some rest := by
    rw [behind?_eq_some_iff, String.toList_ofList]
  obtain ⟨⟨y, r⟩, hy⟩ : ∃ split, splitDouble? (x ++ rest) = some split := by
    rw [← Option.isSome_iff_exists, splitDouble?, List.findSome?_isSome_iff]
    exact ⟨_, hx, by rw [hb]; rfl⟩
  obtain ⟨he, hm⟩ := hsound hy
  have hl : y.length = x.length := by
    have h₁ := length_of_mem_doubleOperators hm
    have h₂ := length_of_mem_doubleOperators hx
    rw [String.toList_ofList] at h₁ h₂
    rw [h₁, h₂]
  obtain ⟨rfl, rfl⟩ := List.append_inj he hl
  exact hy

theorem splitDouble?_cons_eq_none_iff {a : Char} :
    splitDouble? (a :: s) = none ↔ ∀ b ∈ s.head?, String.ofList [a, b] ∉ doubleOperators := by
  constructor
  · intro h b hb hm
    obtain ⟨t, rfl⟩ : ∃ t, s = b :: t := by
      cases s with
      | nil => cases hb
      | cons c s => cases hb; exact ⟨s, rfl⟩
    have hd : splitDouble? (a :: b :: t) = some ([a, b], t) := splitDouble?_eq_some_iff.2 ⟨rfl, hm⟩
    rw [hd] at h
    cases h
  · intro h
    rw [Option.eq_none_iff_forall_ne_some]
    rintro ⟨x, r⟩ hx
    obtain ⟨he, hm⟩ := splitDouble?_eq_some_iff.1 hx
    obtain ⟨c, -, d, -, hcd⟩ := of_mem_doubleOperators hm
    rw [String.toList_ofList] at hcd
    subst hcd
    cases he
    exact h d rfl hm

/-- The single operator at the start of a text. -/
def splitSingle? : List Char → Option (List Char × List Char)
  | [] => none
  | c :: s => if c ∈ singleOperators.toList then some ([c], s) else none

theorem splitSingle?_eq_some_iff :
    splitSingle? s = some (x, rest) ↔
      x ++ rest = s ∧ ∃ a ∈ singleOperators.toList, x = [a] := by
  constructor
  · intro h
    cases s with
    | nil => cases h
    | cons c s =>
      rw [splitSingle?, ite_eq_iff] at h
      rcases h with ⟨hc, h⟩ | ⟨-, h⟩
      · cases h
        exact ⟨rfl, c, hc, rfl⟩
      · cases h
  · rintro ⟨rfl, a, ha, rfl⟩
    exact if_pos ha

theorem splitOperator?_eq_or (s : List Char) :
    splitOperator? s = (splitDouble? s).or (splitSingle? s) := by
  cases h : splitDouble? s with
  | none =>
    rw [splitDouble?] at h
    simp only [splitOperator?, h]
    cases s <;> rfl
  | some split =>
    rw [splitDouble?] at h
    simp only [splitOperator?, h]
    rfl

theorem splitOperator?_eq_some_iff :
    splitOperator? s = some (x, rest) ↔
      x ++ rest = s ∧ (String.ofList x ∈ doubleOperators ∨
        ∃ a ∈ singleOperators.toList, x = [a] ∧
          ∀ b ∈ rest.head?, String.ofList [a, b] ∉ doubleOperators) := by
  rw [splitOperator?_eq_or, Option.or_eq_some_iff, splitDouble?_eq_some_iff,
    splitSingle?_eq_some_iff]
  constructor
  · rintro (⟨hs, hm⟩ | ⟨hd, rfl, a, ha, rfl⟩)
    · exact ⟨hs, .inl hm⟩
    · exact ⟨rfl, .inr ⟨a, ha, rfl, splitDouble?_cons_eq_none_iff.1 hd⟩⟩
  · rintro ⟨rfl, hm | ⟨a, ha, rfl, hb⟩⟩
    · exact .inl ⟨rfl, hm⟩
    · exact .inr ⟨splitDouble?_cons_eq_none_iff.2 hb, rfl, a, ha, rfl⟩

theorem splitOperator?_cons_eq_none_iff {c : Char} :
    splitOperator? (c :: s) = none ↔ c ∉ singleOperators.toList := by
  constructor
  · intro h hc
    cases hd : splitDouble? (c :: s) with
    | none =>
      have ho : splitOperator? (c :: s) = some ([c], s) := splitOperator?_eq_some_iff.2
        ⟨rfl, .inr ⟨c, hc, rfl, splitDouble?_cons_eq_none_iff.1 hd⟩⟩
      rw [ho] at h
      cases h
    | some split =>
      obtain ⟨hs, hm⟩ := splitDouble?_eq_some_iff.1 hd
      rw [splitOperator?_eq_some_iff.2 ⟨hs, .inl hm⟩] at h
      cases h
  · intro hc
    rw [Option.eq_none_iff_forall_ne_some]
    rintro ⟨x, r⟩ hx
    obtain ⟨he, hm | ⟨a, ha, rfl, -⟩⟩ := splitOperator?_eq_some_iff.1 hx
    · obtain ⟨a, ha, b, -, hab⟩ := of_mem_doubleOperators hm
      rw [String.toList_ofList] at hab
      subst hab
      cases he
      exact hc ha
    · cases he
      exact hc ha

theorem splitIdentifier?_eq_some_iff :
    splitIdentifier? s = some (x, rest) ↔
      x ++ rest = s ∧ (∃ c t, x = c :: t ∧ isWordStart c = true ∧ ∀ d ∈ t, isWordChar d = true) ∧
        atWordBoundary rest = true := by
  constructor
  · intro h
    cases s with
    | nil => cases h
    | cons c s =>
      simp only [splitIdentifier?] at h
      split at h
      · next hc =>
        cases h
        obtain ⟨hs, ht, hr⟩ := run_eq_iff.1 (Eq.refl (run isWordChar s))
        exact ⟨congrArg (List.cons c) hs, ⟨c, _, rfl, hc, ht⟩, atWordBoundary_iff.2 hr⟩
      · cases h
  · rintro ⟨rfl, ⟨c, t, rfl, hc, ht⟩, hr⟩
    have hrun : run isWordChar (t ++ rest) = (t, rest) :=
      run_eq_iff.2 ⟨rfl, ht, atWordBoundary_iff.1 hr⟩
    simp only [List.cons_append, splitIdentifier?, hrun]
    exact if_pos hc

theorem splitIdentifier?_cons_eq_none_iff {c : Char} :
    splitIdentifier? (c :: s) = none ↔ isWordStart c = false := by
  simp [splitIdentifier?]

end SourceLens.Pattern
