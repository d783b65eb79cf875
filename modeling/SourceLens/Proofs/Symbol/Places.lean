import SourceLens.Proofs.Symbol.Table
import SourceLens.Symbol.Sighting

/-! # The places where names are seen

What makes a name a function or a variable is said by places in a list of tokens: which token stands
at a place, and which is the first behind it that counts. The table of a list holds just the names
that are seen so. The list need not come from a text. -/
namespace SourceLens

variable {passed : Token → Prop} {language : Language} {t u : Token} {ts rest : List Token}
  {name spelling : String} {i m : Nat}

/-- The first token that is not passed over stands at a place. -/
structure FirstAt (passed : Token → Prop) (ts : List Token) (m : Nat) (t : Token) : Prop where
  token : ts[m]? = some t
  stops : ¬passed t
  before : ∀ j < m, ∀ u ∈ ts[j]?, passed u

theorem firstAt_zero : FirstAt passed (u :: rest) 0 t ↔ ¬passed u ∧ u = t := by
  constructor
  · intro h
    obtain rfl : u = t := Option.some.inj h.token
    exact ⟨h.stops, rfl⟩
  · rintro ⟨hu, rfl⟩
    exact ⟨rfl, hu, nofun⟩

theorem firstAt_succ :
    FirstAt passed (u :: rest) (m + 1) t ↔ passed u ∧ FirstAt passed rest m t := by
  constructor
  · intro h
    refine ⟨h.before 0 (Nat.succ_pos m) u rfl, h.token, h.stops, ?_⟩
    intro j hj v hv
    exact h.before (j + 1) (Nat.succ_lt_succ hj) v hv
  · rintro ⟨hu, h⟩
    refine ⟨h.token, h.stops, ?_⟩
    intro j hj v hv
    cases j with
    | zero =>
      obtain rfl : u = v := Option.some.inj hv
      exact hu
    | succ j => exact h.before j (Nat.lt_of_succ_lt_succ hj) v hv

/-- The first token behind place `i` that is not passed over stands at place `k`. -/
structure FirstBehind (passed : Token → Prop) (ts : List Token) (i k : Nat) (t : Token) : Prop where
  behind : i < k
  token : ts[k]? = some t
  stops : ¬passed t
  between : ∀ j, i < j → j < k → ∀ u ∈ ts[j]?, passed u

theorem firstAt_drop : FirstAt passed (ts.drop (i + 1)) m t ↔
    FirstBehind passed ts i (i + 1 + m) t := by
  constructor
  · intro h
    refine ⟨by omega, by rw [← List.getElem?_drop, h.token], h.stops, ?_⟩
    intro j hi hj u hu
    apply h.before (j - (i + 1)) (by omega) u
    rwa [List.getElem?_drop, show i + 1 + (j - (i + 1)) = j by omega]
  · intro h
    refine ⟨by rw [List.getElem?_drop, h.token], h.stops, ?_⟩
    intro j hj u hu
    rw [List.getElem?_drop] at hu
    exact h.between (i + 1 + j) (by omega) (by omega) u hu

/-- White space. -/
def IsBlank (t : Token) : Prop := t.kind = .whitespace

/-- White space or a star. -/
def IsBlankOrStar (t : Token) : Prop := t.kind = .whitespace ∨ t = ⟨.operator, "*"⟩

/-- The first token behind place `i` that is not white space is `t`. -/
def Next (ts : List Token) (i : Nat) (t : Token) : Prop := ∃ k, FirstBehind IsBlank ts i k t

/-- A function of the name is seen at place `i`: in C-like source the name stands before an opening
parenthesis, in Python source it stands behind `def`. -/
def FunctionAt (language : Language) (ts : List Token) (i : Nat) (name : String) : Prop :=
  match language with
  | .cLike => ts[i]? = some ⟨.identifier, name⟩ ∧ Next ts i ⟨.operator, "("⟩
  | .python => ts[i]? = some ⟨.keyword, "def"⟩ ∧ Next ts i ⟨.identifier, name⟩

/-- A type specifier at place `i` declares a variable of the name at place `d`. -/
def DeclaredAt (language : Language) (ts : List Token) (i d : Nat) (name : String) : Prop :=
  match language with
  | .cLike => (∃ word ∈ typeSpecifiers, ts[i]? = some ⟨.keyword, word⟩) ∧
      FirstBehind IsBlankOrStar ts i d ⟨.identifier, name⟩ ∧ ¬Next ts d ⟨.operator, "("⟩
  | .python => False

/-- A variable of the name is used at place `i`: the name stands before `=` or, in C-like source,
before `[`. -/
def UsedAt (language : Language) (ts : List Token) (i : Nat) (name : String) : Prop :=
  ts[i]? = some ⟨.identifier, name⟩ ∧
    match language with
    | .cLike => Next ts i ⟨.operator, "="⟩ ∨ Next ts i ⟨.operator, "["⟩
    | .python => Next ts i ⟨.operator, "="⟩

/-! ## Looking ahead -/

theorem Token.isOperator_iff : t.isOperator spelling = true ↔ t = ⟨.operator, spelling⟩ := by
  cases t
  simp [Token.isOperator]

theorem not_firstAt_nil : ¬FirstAt passed [] m t := nofun

theorem ahead?_eq_some_iff : ahead? ts = some t ↔ ∃ m, FirstAt IsBlank ts m t := by
  induction ts with
  | nil => simp [ahead?, not_firstAt_nil]
  | cons u ts ih =>
    rw [← Nat.or_exists_add_one]
    simp only [firstAt_zero, firstAt_succ, exists_and_left, ← ih]
    by_cases hu : u.kind = .whitespace <;> simp [ahead?, IsBlank, hu]

theorem ahead?_drop_eq_some_iff : ahead? (ts.drop (i + 1)) = some t ↔ Next ts i t := by
  rw [ahead?_eq_some_iff]
  constructor
  · rintro ⟨m, hm⟩
    exact ⟨i + 1 + m, firstAt_drop.1 hm⟩
  · rintro ⟨k, hk⟩
    obtain ⟨m, rfl⟩ := Nat.exists_eq_add_of_le (Nat.succ_le_of_lt hk.behind)
    exact ⟨m, firstAt_drop.2 hk⟩

theorem followedBy_iff :
    followedBy rest spelling = true ↔ ahead? rest = some ⟨.operator, spelling⟩ := by
  rw [followedBy, Option.any_eq_true]
  constructor
  · rintro ⟨t, ht, hop⟩
    rw [ht, Token.isOperator_iff.1 hop]
  · intro h
    exact ⟨_, h, Token.isOperator_iff.2 rfl⟩

theorem followedBy_drop_iff :
    followedBy (ts.drop (i + 1)) spelling = true ↔ Next ts i ⟨.operator, spelling⟩ := by
  rw [followedBy_iff, ahead?_drop_eq_some_iff]

theorem declarator?_eq_some_iff : declarator? ts = some name ↔
    ∃ m, FirstAt IsBlankOrStar ts m ⟨.identifier, name⟩ ∧
      ¬followedBy (ts.drop (m + 1)) "(" = true := by
  induction ts with
  | nil => simp [declarator?, not_firstAt_nil]
  | cons u ts ih =>
    rw [← Nat.or_exists_add_one, declarator?]
    simp only [firstAt_zero, firstAt_succ, List.drop_succ_cons, List.drop_zero, and_assoc,
      exists_and_left, ← ih]
    by_cases hu : IsBlankOrStar u
    · have hu' : u.kind = .whitespace ∨ u.isOperator "*" = true := by
        rwa [Token.isOperator_iff]
      simp [hu, hu']
    · have hu' : ¬(u.kind = .whitespace ∨ u.isOperator "*" = true) := by
        rwa [Token.isOperator_iff]
      obtain ⟨kind, text⟩ := u
      simp only [if_neg hu', hu, not_false_eq_true, true_and, false_and, or_false,
        Token.mk.injEq]
      by_cases hd : kind = .identifier ∧ ¬followedBy ts "(" = true
      · simp [hd]
      · simp only [if_neg hd, reduceCtorEq, false_iff]
        exact fun h => hd ⟨h.1.1, h.2⟩

theorem declarator?_drop_eq_some_iff : declarator? (ts.drop (i + 1)) = some name ↔
    ∃ d, FirstBehind IsBlankOrStar ts i d ⟨.identifier, name⟩ ∧ ¬Next ts d ⟨.operator, "("⟩ := by
  rw [declarator?_eq_some_iff]
  constructor
  · rintro ⟨m, hm, hn⟩
    rw [List.drop_drop, ← Nat.add_assoc, followedBy_drop_iff] at hn
    exact ⟨i + 1 + m, firstAt_drop.1 hm, hn⟩
  · rintro ⟨d, hd, hn⟩
    obtain ⟨m, rfl⟩ := Nat.exists_eq_add_of_le (Nat.succ_le_of_lt hd.behind)
    refine ⟨m, firstAt_drop.2 hd, ?_⟩
    rwa [List.drop_drop, ← Nat.add_assoc, followedBy_drop_iff]

/-! ## The signs of a list -/

namespace Sighting

theorem inCLike?_eq_some_iff {sign : Sighting} : inCLike? t rest = some sign ↔
    match sign with
    | function name => t = ⟨.identifier, name⟩ ∧ followedBy rest "(" = true
    | declaration name =>
      (∃ word ∈ typeSpecifiers, t = ⟨.keyword, word⟩) ∧ declarator? rest = some name
    | use name =>
      t = ⟨.identifier, name⟩ ∧ (followedBy rest "=" = true ∨ followedBy rest "[" = true) := by
  obtain ⟨kind, text⟩ := t
  cases kind with
  | identifier =>
    simp only [inCLike?, Bool.or_eq_true, followedBy_iff]
    split_ifs with hcall huse
    · cases sign <;> simp [hcall]
    · cases sign <;> simp [hcall, huse]
    · cases sign <;> simp [hcall, huse]
  | keyword => cases sign <;> simp [inCLike?]
  | _ => cases sign <;> simp [inCLike?]

theorem inPython?_eq_some_iff {sign : Sighting} : inPython? t rest = some sign ↔
    match sign with
    | function name => t = ⟨.keyword, "def"⟩ ∧ ahead? rest = some ⟨.identifier, name⟩
    | declaration _ => False
    | use name => t = ⟨.identifier, name⟩ ∧ followedBy rest "=" = true := by
  obtain ⟨kind, text⟩ := t
  cases kind with
  | identifier =>
    simp only [inPython?]
    split_ifs with huse <;> cases sign <;> simp [huse]
  | keyword =>
    simp only [inPython?]
    split_ifs with hdef
    · cases hnext : ahead? rest with
      | none => cases sign <;> simp
      | some u =>
        obtain ⟨kind, name⟩ := u
        cases sign <;> simp [hdef]
    · cases sign <;> simp [hdef]
  | _ => cases sign <;> simp [inPython?]

/-- A token list shows a sign at a place. -/
def At (language : Language) (ts : List Token) (i : Nat) (sign : Sighting) : Prop :=
  ∃ t ∈ ts[i]?, of? language t (ts.drop (i + 1)) = some sign

theorem at_zero {sign : Sighting} :
    At language (t :: ts) 0 sign ↔ of? language t ts = some sign := by
  simp [At]

theorem at_succ {sign : Sighting} :
    At language (t :: ts) (i + 1) sign ↔ At language ts i sign := by
  simp [At]

theorem not_at_nil {sign : Sighting} : ¬At language [] i sign := by
  simp [At]

theorem at_function_iff : At language ts i (function name) ↔ FunctionAt language ts i name := by
  cases language with
  | cLike =>
    simp only [At, of?, inCLike?_eq_some_iff, FunctionAt, followedBy_drop_iff]
    simp
  | python =>
    simp only [At, of?, inPython?_eq_some_iff, FunctionAt, ahead?_drop_eq_some_iff]
    simp

theorem at_declaration_iff :
    At language ts i (declaration name) ↔ ∃ d, DeclaredAt language ts i d name := by
  cases language with
  | cLike =>
    simp only [At, of?, inCLike?_eq_some_iff, DeclaredAt, declarator?_drop_eq_some_iff]
    constructor
    · rintro ⟨t, ht, ⟨word, hword, rfl⟩, d, hd⟩
      exact ⟨d, ⟨word, hword, ht⟩, hd⟩
    · rintro ⟨d, ⟨word, hword, ht⟩, hd⟩
      exact ⟨_, ht, ⟨word, hword, rfl⟩, d, hd⟩
  | python => simp [At, of?, inPython?_eq_some_iff, DeclaredAt]

theorem at_use_iff : At language ts i (use name) ↔ UsedAt language ts i name := by
  cases language with
  | cLike =>
    simp only [At, of?, inCLike?_eq_some_iff, UsedAt, followedBy_drop_iff]
    simp
  | python =>
    simp only [At, of?, inPython?_eq_some_iff, UsedAt, followedBy_drop_iff]
    simp

theorem exists_at_cons {sign : Sighting} : (∃ i, At language (t :: ts) i sign) ↔
    of? language t ts = some sign ∨ ∃ i, At language ts i sign := by
  rw [← Nat.or_exists_add_one]
  simp only [at_zero, at_succ]

/-- A sign before which another one does not show: it is that of the first token, or the first
token does not show the other one. -/
theorem exists_at_unless_cons {sign other : Sighting} :
    (∃ i, At language (t :: ts) i sign ∧ ∀ j < i, ¬At language (t :: ts) j other) ↔
      of? language t ts = some sign ∨ of? language t ts ≠ some other ∧
        ∃ i, At language ts i sign ∧ ∀ j < i, ¬At language ts j other := by
  rw [← Nat.or_exists_add_one]
  simp only [at_zero, at_succ, Nat.forall_lt_succ_left, Nat.not_lt_zero, false_implies,
    implies_true, and_true, ← exists_and_left, and_left_comm]

theorem mem_functionNames_all : name ∈ functionNames (all language ts) ↔
    ∃ i, At language ts i (function name) := by
  induction ts with
  | nil => simp [all, functionNames, not_at_nil]
  | cons t ts ih =>
    rw [exists_at_cons, ← ih, all]
    rcases of? language t ts with - | sign
    · simp
    · cases sign <;> simp [functionNames, eq_comm]

/-- A use counts unless the name is known as a function or shown as one before. -/
theorem mem_variableNames_all {known : List String} :
    name ∈ variableNames known (all language ts) ↔
      (∃ i, At language ts i (declaration name)) ∨ name ∉ known ∧
        ∃ i, At language ts i (use name) ∧ ∀ j < i, ¬At language ts j (function name) := by
  induction ts generalizing known with
  | nil => simp [all, variableNames, not_at_nil]
  | cons t ts ih =>
    rw [exists_at_cons, exists_at_unless_cons, all]
    rcases of? language t ts with - | sign
    · simp [ih]
    · rw [Option.toList_some, List.singleton_append]
      cases sign with
      | function f =>
        rw [variableNames, ih, List.mem_cons]
        grind
      | declaration v =>
        rw [variableNames, List.mem_cons, ih]
        grind
      | use v =>
        rw [variableNames]
        split
        · rw [ih]
          grind
        · rw [List.mem_cons, ih]
          grind

end Sighting

/-- What the table of a token list holds. A function is a name seen as one. A variable is a name
that is declared, be it also seen as a function, or one that is used and not seen as a function
before. Each list holds its names once, ascending by code points. -/
theorem SymbolTable.mem_ofTokens_iff (ts : List Token) (language : Language) :
    let table := SymbolTable.ofTokens ts language
    (∀ name, name ∈ table.functionNames ↔ ∃ i, FunctionAt language ts i name) ∧
      (∀ name, name ∈ table.variableNames ↔
        (∃ i d, DeclaredAt language ts i d name) ∨
          ∃ i, UsedAt language ts i name ∧ ∀ j < i, ¬FunctionAt language ts j name) ∧
      table.functionNames.toList.Pairwise (· < ·) ∧
      table.variableNames.toList.Pairwise (· < ·) := by
  refine ⟨fun name => ?_, fun name => ?_, pairwise_sortedNames _, pairwise_sortedNames _⟩
  · simp only [ofTokens, ofNames, mem_sortedNames, Sighting.mem_functionNames_all,
      Sighting.at_function_iff]
  · simp only [ofTokens, ofNames, mem_sortedNames, Sighting.mem_variableNames_all,
      Sighting.at_function_iff, Sighting.at_declaration_iff, Sighting.at_use_iff]
    simp

example : SymbolTable.ofTokens [⟨.keyword, "int"⟩, ⟨.identifier, "f"⟩, ⟨.operator, ";"⟩,
    ⟨.identifier, "f"⟩, ⟨.operator, "("⟩] .cLike = ⟨#["f"], #["f"]⟩ := by
  cbv

end SourceLens
