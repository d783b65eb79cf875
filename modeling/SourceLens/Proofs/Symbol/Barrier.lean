import SourceLens.Proofs.Symbol.Skeleton

/-! # Token lists joined at a barrier

A comment or a semicolon stops every look at the tokens ahead, and shows no name itself. What is
seen in a list that such a token divides is therefore what is seen in front of it and behind it.
Only the functions in front of it matter behind it: their names are no longer seen as used, though
they can still be declared. At the ends of a list white space and comments do not matter at all. -/
namespace SourceLens

variable {language : Language} {m t : Token} {a b ts : List Token} {name spelling : String}

/-- A comment or a semicolon. -/
def Token.IsBarrier (t : Token) : Prop := t.kind = .comment ∨ t = ⟨.operator, ";"⟩

namespace Token.IsBarrier

theorem kind_ne (h : m.IsBarrier) :
    m.kind ≠ .whitespace ∧ m.kind ≠ .identifier ∧ m.kind ≠ .keyword := by
  rcases h with h | rfl
  · simp [h]
  · decide

theorem isOperator_eq_false (h : m.IsBarrier) (hs : spelling ≠ ";") :
    m.isOperator spelling = false := by
  rw [← Bool.not_eq_true, Token.isOperator_iff]
  rintro rfl
  rcases h with h | h
  · cases h
  · exact hs (congrArg Token.text h)

/-! ## Looking ahead -/

theorem ahead?_append (h : m.IsBarrier) (a b : List Token) :
    ahead? (a ++ m :: b) = (ahead? a).or (some m) := by
  rw [ahead?, List.find?_append, List.find?_cons_of_pos (by simp [h.kind_ne.1])]
  rfl

theorem followedBy_append (h : m.IsBarrier) (hs : spelling ≠ ";") (a b : List Token) :
    followedBy (a ++ m :: b) spelling = followedBy a spelling := by
  rw [followedBy, followedBy, h.ahead?_append]
  cases ahead? a with
  | none => exact h.isOperator_eq_false hs
  | some t => rfl

theorem declarator?_append (h : m.IsBarrier) (a b : List Token) :
    declarator? (a ++ m :: b) = declarator? a := by
  induction a with
  | nil =>
    have hstar := h.isOperator_eq_false (by decide : "*" ≠ ";")
    simp [declarator?, h.kind_ne, hstar]
  | cons t a ih =>
    rw [List.cons_append, declarator?, declarator?, ih,
      h.followedBy_append (by decide : "(" ≠ ";")]

end Token.IsBarrier

/-! ## The signs -/

namespace Sighting

theorem of?_barrier (h : m.IsBarrier) (b : List Token) : of? language m b = none := by
  rcases h with h | rfl
  · cases language <;> simp only [of?, inCLike?, inPython?, h]
  · cases language <;> rfl

theorem of?_append_barrier (h : m.IsBarrier) (t : Token) (a b : List Token) :
    of? language t (a ++ m :: b) = of? language t a := by
  cases language with
  | cLike =>
    simp only [of?, inCLike?, h.declarator?_append, h.followedBy_append (by decide : "(" ≠ ";"),
      h.followedBy_append (by decide : "=" ≠ ";"), h.followedBy_append (by decide : "[" ≠ ";")]
  | python =>
    simp only [of?, inPython?, h.followedBy_append (by decide : "=" ≠ ";"), h.ahead?_append]
    cases ahead? a <;> simp [h.kind_ne]

/-- The signs of a list are those in front of the barrier and those behind it. -/
theorem all_append_barrier (h : m.IsBarrier) (a b : List Token) :
    all language (a ++ m :: b) = all language a ++ all language b := by
  induction a with
  | nil => simp [all, of?_barrier h]
  | cons t a ih => rw [List.cons_append, all, all, of?_append_barrier h, ih, List.append_assoc]

theorem functionNames_append (signs signs' : List Sighting) :
    functionNames (signs ++ signs') = functionNames signs ++ functionNames signs' := by
  induction signs with
  | nil => rfl
  | cons sign signs ih => cases sign <;> simp [functionNames, ih]

/-- The functions of the first signs are known when the others are read. -/
theorem variableNames_append (known : List String) (signs signs' : List Sighting) :
    variableNames known (signs ++ signs') =
      variableNames known signs ++
        variableNames ((functionNames signs).reverse ++ known) signs' := by
  induction signs generalizing known with
  | nil => rfl
  | cons sign signs ih =>
    cases sign with
    | function f => simp [variableNames, functionNames, ih]
    | declaration v => simp [variableNames, functionNames, ih]
    | use v =>
      simp only [List.cons_append, variableNames, functionNames, ih]
      split <;> simp

theorem functionNames_all_barrier (h : m.IsBarrier) (a b : List Token) :
    functionNames (all language (a ++ m :: b)) =
      functionNames (all language a) ++ functionNames (all language b) := by
  rw [all_append_barrier h, functionNames_append]

/-- What is known beforehand hides uses, but no declarations. -/
theorem mem_variableNames_known (known : List String) :
    name ∈ variableNames known (all language ts) ↔
      name ∈ variableNames [] (all language ts) ∧ name ∉ known ∨
        ∃ i d, DeclaredAt language ts i d name := by
  simp only [mem_variableNames_all, at_declaration_iff, List.not_mem_nil, not_false_eq_true,
    true_and]
  grind

theorem mem_variableNames_all_barrier (h : m.IsBarrier) (a b : List Token) :
    name ∈ variableNames [] (all language (a ++ m :: b)) ↔
      name ∈ variableNames [] (all language a) ∨
        name ∈ variableNames [] (all language b) ∧ name ∉ functionNames (all language a) ∨
          ∃ i d, DeclaredAt language b i d name := by
  rw [all_append_barrier h, variableNames_append, List.append_nil, List.mem_append,
    mem_variableNames_known (functionNames (all language a)).reverse, List.mem_reverse]

end Sighting

/-! ## Trivia at the ends -/

theorem Token.isTrivia_iff : t.isTrivia = true ↔ t.kind = .whitespace ∨ t.kind = .comment := by
  simp [isTrivia]

namespace Sighting

theorem all_append_blank (h : t.kind = .whitespace) (a b : List Token) :
    all language (a ++ t :: b) = all language (a ++ b) := by
  rw [← all_skeleton, skeleton_append, skeleton_cons_blank h, ← skeleton_append, all_skeleton]

theorem all_append_trivia (h : ∀ t ∈ b, t.isTrivia = true) (a : List Token) :
    all language (a ++ b) = all language a := by
  induction b generalizing a with
  | nil => rw [List.append_nil]
  | cons m b ih =>
    obtain ⟨hm, hb⟩ := List.forall_mem_cons.1 h
    rcases Token.isTrivia_iff.1 hm with hblank | hcomment
    · rw [all_append_blank hblank, ih hb]
    · have hbehind : all language b = [] := ih hb []
      rw [all_append_barrier (.inl hcomment), hbehind, List.append_nil]

theorem all_trivia_append (h : ∀ t ∈ a, t.isTrivia = true) (b : List Token) :
    all language (a ++ b) = all language b := by
  induction a with
  | nil => rfl
  | cons m a ih =>
    obtain ⟨hm, ha⟩ := List.forall_mem_cons.1 h
    rw [← ih ha]
    rcases Token.isTrivia_iff.1 hm with hblank | hcomment
    · exact all_append_blank hblank [] (a ++ b)
    · exact all_append_barrier (.inl hcomment) [] (a ++ b)

end Sighting

/-- White space and comments in front of a list and behind it do not change its table. -/
theorem SymbolTable.ofTokens_trivia (language : Language) (ts : List Token)
    (ha : ∀ t ∈ a, t.isTrivia = true) (hb : ∀ t ∈ b, t.isTrivia = true) :
    ofTokens (a ++ ts ++ b) language = ofTokens ts language := by
  rw [ofTokens, ofTokens, Sighting.all_append_trivia hb, Sighting.all_trivia_append ha]

/-- Only C-like source declares variables. -/
theorem exists_declaredAt_iff : (∃ i d, DeclaredAt language ts i d name) ↔
    language = .cLike ∧ ∃ i d, DeclaredAt .cLike ts i d name := by
  cases language with
  | cLike => exact (and_iff_right rfl).symm
  | python => simp [DeclaredAt]

/-! ## The tables -/

namespace SymbolTable

theorem mem_functionNames_ofTokens : name ∈ (ofTokens ts language).functionNames ↔
    name ∈ Sighting.functionNames (Sighting.all language ts) :=
  mem_sortedNames

theorem mem_variableNames_ofTokens : name ∈ (ofTokens ts language).variableNames ↔
    name ∈ Sighting.variableNames [] (Sighting.all language ts) :=
  mem_sortedNames

/-- The table of a list that a barrier divides. Its functions are those of both parts, so that the
parts may change places. Its variables are those of the first part, those of the second part that
are no functions of the first, and in C-like source all that the second part declares. -/
theorem ofTokens_append_barrier (language : Language) (h : m.IsBarrier) (a b : List Token) :
    let table := ofTokens (a ++ m :: b) language
    let front := ofTokens a language
    let back := ofTokens b language
    (∀ name, name ∈ table.functionNames ↔ name ∈ front.functionNames ∨ name ∈ back.functionNames) ∧
      (ofTokens (b ++ m :: a) language).functionNames = table.functionNames ∧
      ∀ name, name ∈ table.variableNames ↔
        name ∈ front.variableNames ∨ name ∈ back.variableNames ∧ name ∉ front.functionNames ∨
          language = .cLike ∧ ∃ i d, DeclaredAt .cLike b i d name := by
  refine ⟨fun name => ?_, ?_, fun name => ?_⟩
  · rw [mem_functionNames_ofTokens, mem_functionNames_ofTokens, mem_functionNames_ofTokens,
      Sighting.functionNames_all_barrier h, List.mem_append]
  · apply sortedNames_congr
    intro name
    rw [Sighting.functionNames_all_barrier h, Sighting.functionNames_all_barrier h,
      List.mem_append, List.mem_append, or_comm]
  · rw [mem_variableNames_ofTokens, mem_variableNames_ofTokens, mem_variableNames_ofTokens,
      mem_functionNames_ofTokens, Sighting.mem_variableNames_all_barrier h, exists_declaredAt_iff]

theorem ofTokens_append_barrier_redeclared :
    let m : Token := ⟨.comment, "/**/"⟩
    let a : List Token := [⟨.identifier, "f"⟩, ⟨.operator, "("⟩, ⟨.keyword, "int"⟩]
    let b : List Token := [⟨.identifier, "g"⟩, ⟨.operator, "="⟩, ⟨.identifier, "f"⟩,
      ⟨.operator, "="⟩, ⟨.keyword, "char"⟩, ⟨.operator, "*"⟩, ⟨.identifier, "f"⟩]
    let table := ofTokens (a ++ m :: b) .cLike
    let front := ofTokens a .cLike
    let back := ofTokens b .cLike
    m.IsBarrier ∧
      (∀ name, name ∈ table.functionNames ↔
        name ∈ front.functionNames ∨ name ∈ back.functionNames) ∧
      (ofTokens (b ++ m :: a) .cLike).functionNames = table.functionNames ∧
      ∀ name, name ∈ table.variableNames ↔
        name ∈ front.variableNames ∨ name ∈ back.variableNames ∧ name ∉ front.functionNames ∨
          Language.cLike = .cLike ∧ ∃ i d, DeclaredAt .cLike b i d name := by
  intro m a b
  have h : m.IsBarrier := .inl rfl
  exact ⟨h, ofTokens_append_barrier .cLike h a b⟩

end SymbolTable

end SourceLens
