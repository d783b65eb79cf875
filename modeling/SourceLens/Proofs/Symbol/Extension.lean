import SourceLens.Proofs.Symbol.Barrier

/-! # More tokens behind a list

What is seen in a list of tokens is still seen when more tokens follow, for a look ahead that met a
token meets it again. Only a look that ran off the end can now meet another one: an identifier that
was declared as the last token of the list becomes a function if a parenthesis follows. -/
namespace SourceLens

variable {passed : Token → Prop} {language : Language} {a : List Token} {t u : Token}
  {name : String} {i j k d : Nat}

/-- The last token that is not passed over stands at a place. -/
structure LastAt (passed : Token → Prop) (ts : List Token) (k : Nat) (t : Token) : Prop where
  token : ts[k]? = some t
  stops : ¬passed t
  behind : ∀ j, k < j → ∀ u ∈ ts[j]?, passed u

theorem getElem?_append_of_eq_some (h : a[i]? = some t) (b : List Token) :
    (a ++ b)[i]? = some t := by
  rw [List.getElem?_append_left (List.getElem?_eq_some_iff.1 h).1, h]

/-! ## Looking ahead -/

theorem FirstBehind.append (h : FirstBehind passed a i k t) (b : List Token) :
    FirstBehind passed (a ++ b) i k t := by
  have hk : k < a.length := (List.getElem?_eq_some_iff.1 h.token).1
  refine ⟨h.behind, getElem?_append_of_eq_some h.token b, h.stops, ?_⟩
  intro j hij hjk u hu
  rw [List.getElem?_append_left (hjk.trans hk)] at hu
  exact h.between j hij hjk u hu

/-- What is met behind a place was met there before, or nothing was. -/
theorem FirstBehind.of_append {b : List Token} (h : FirstBehind passed (a ++ b) i k t) :
    FirstBehind passed a i k t ∨ ∀ j, i < j → ∀ u ∈ a[j]?, passed u := by
  rcases Nat.lt_or_ge k a.length with hk | hk
  · left
    refine ⟨h.behind, by rw [← List.getElem?_append_left hk, h.token], h.stops, ?_⟩
    intro j hij hjk u hu
    exact h.between j hij hjk u (getElem?_append_of_eq_some hu b)
  · right
    intro j hij u hu
    have hj : j < a.length := (List.getElem?_eq_some_iff.1 hu).1
    exact h.between j hij (hj.trans_le hk) u (getElem?_append_of_eq_some hu b)

theorem Next.append (h : Next a i t) (b : List Token) : Next (a ++ b) i t := by
  obtain ⟨k, hk⟩ := h
  exact ⟨k, hk.append b⟩

theorem Next.of_append {b : List Token} (h : Next (a ++ b) i t) :
    Next a i t ∨ ∀ j, i < j → ∀ u ∈ a[j]?, IsBlank u := by
  obtain ⟨k, hk⟩ := h
  exact hk.of_append.imp_left fun hk => ⟨k, hk⟩

/-- A look that starts before a visible token of the list does not run off its end. -/
theorem Next.of_append_of_lt {b : List Token} (h : Next (a ++ b) i t) (hij : i < j)
    (hu : a[j]? = some u) (hs : ¬IsBlank u) : Next a i t := by
  rcases h.of_append with h | h
  · exact h
  · exact absurd (h j hij u hu) hs

/-! ## The places of names -/

theorem FunctionAt.append (h : FunctionAt language a i name) (b : List Token) :
    FunctionAt language (a ++ b) i name := by
  cases language with
  | cLike => exact ⟨getElem?_append_of_eq_some h.1 b, h.2.append b⟩
  | python => exact ⟨getElem?_append_of_eq_some h.1 b, h.2.append b⟩

/-- No function is seen before a visible token that was not seen before. -/
theorem FunctionAt.of_append {b : List Token} (h : FunctionAt language (a ++ b) i name)
    (hij : i < j) (hu : a[j]? = some u) (hs : ¬IsBlank u) : FunctionAt language a i name := by
  have hi : i < a.length := hij.trans (List.getElem?_eq_some_iff.1 hu).1
  cases language with
  | cLike =>
    refine ⟨?_, h.2.of_append_of_lt hij hu hs⟩
    rw [← List.getElem?_append_left hi, h.1]
  | python =>
    refine ⟨?_, h.2.of_append_of_lt hij hu hs⟩
    rw [← List.getElem?_append_left hi, h.1]

theorem UsedAt.append (h : UsedAt language a i name) (b : List Token) :
    UsedAt language (a ++ b) i name := by
  refine ⟨getElem?_append_of_eq_some h.1 b, ?_⟩
  cases language with
  | cLike => exact h.2.imp (·.append b) (·.append b)
  | python => exact h.2.append b

/-- A declaration stays one, unless the name that it ends with is called. -/
theorem DeclaredAt.append (h : DeclaredAt language a i d name) (b : List Token) :
    DeclaredAt language (a ++ b) i d name ∨ language = .cLike ∧
      LastAt IsBlank a d ⟨.identifier, name⟩ ∧ Next (a ++ b) d ⟨.operator, "("⟩ := by
  cases language with
  | cLike =>
    obtain ⟨⟨word, hword, ht⟩, hd, hn⟩ := h
    by_cases hcall : Next (a ++ b) d ⟨.operator, "("⟩
    · right
      rcases hcall.of_append with h | h
      · exact absurd h hn
      · exact ⟨rfl, ⟨hd.token, nofun, h⟩, hcall⟩
    · left
      exact ⟨⟨word, hword, getElem?_append_of_eq_some ht b⟩, hd.append b, hcall⟩
  | python => exact h.elim

/-! ## The tables -/

namespace SymbolTable

theorem mem_functionNames_iff_exists_at {ts : List Token} :
    name ∈ (ofTokens ts language).functionNames ↔ ∃ i, FunctionAt language ts i name := by
  simp only [mem_functionNames_ofTokens, Sighting.mem_functionNames_all, Sighting.at_function_iff]

theorem mem_variableNames_iff_exists_at {ts : List Token} :
    name ∈ (ofTokens ts language).variableNames ↔ (∃ i d, DeclaredAt language ts i d name) ∨
      ∃ i, UsedAt language ts i name ∧ ∀ j < i, ¬FunctionAt language ts j name := by
  simp only [mem_variableNames_ofTokens, Sighting.mem_variableNames_all, Sighting.at_function_iff,
    Sighting.at_declaration_iff, Sighting.at_use_iff, List.not_mem_nil, not_false_eq_true, true_and]

/-- The table of a list keeps its names when tokens follow the list. It can lose but one of them: in
C-like source the variable that the last visible token names, if an opening parenthesis comes next. -/
theorem mem_ofTokens_append (language : Language) (a b : List Token) :
    let front := ofTokens a language
    let whole := ofTokens (a ++ b) language
    (∀ name ∈ front.functionNames, name ∈ whole.functionNames) ∧
      ∀ name ∈ front.variableNames, name ∈ whole.variableNames ∨ language = .cLike ∧
        ∃ k, LastAt IsBlank a k ⟨.identifier, name⟩ ∧ Next (a ++ b) k ⟨.operator, "("⟩ := by
  refine ⟨fun name h => ?_, fun name h => ?_⟩
  · obtain ⟨i, hi⟩ := mem_functionNames_iff_exists_at.1 h
    exact mem_functionNames_iff_exists_at.2 ⟨i, hi.append b⟩
  · rcases mem_variableNames_iff_exists_at.1 h with ⟨i, d, hd⟩ | ⟨i, hi, hfirst⟩
    · rcases hd.append b with hd | ⟨hl, hlast, hcall⟩
      · exact .inl (mem_variableNames_iff_exists_at.2 (.inl ⟨i, d, hd⟩))
      · exact .inr ⟨hl, d, hlast, hcall⟩
    · left
      refine mem_variableNames_iff_exists_at.2 (.inr ⟨i, hi.append b, ?_⟩)
      intro j hj hf
      exact hfirst j hj (hf.of_append hj hi.1 nofun)

theorem mem_ofTokens_append_called :
    let a : List Token := [⟨.identifier, "g"⟩, ⟨.operator, "("⟩, ⟨.identifier, "n"⟩,
      ⟨.operator, "="⟩, ⟨.keyword, "int"⟩, ⟨.operator, "*"⟩, ⟨.identifier, "f"⟩, ⟨.whitespace, " "⟩]
    let b : List Token := [⟨.whitespace, "\n"⟩, ⟨.operator, "("⟩]
    let front := ofTokens a .cLike
    let whole := ofTokens (a ++ b) .cLike
    ("g" ∈ front.functionNames ∧ "n" ∈ front.variableNames ∧ "f" ∈ front.variableNames) ∧
      "g" ∈ whole.functionNames ∧ "n" ∈ whole.variableNames ∧ "f" ∉ whole.variableNames ∧
      ∃ k, LastAt IsBlank a k ⟨.identifier, "f"⟩ ∧ Next (a ++ b) k ⟨.operator, "("⟩ := by
  intro a b front whole
  have hg : "g" ∈ front.functionNames := mem_functionNames_ofTokens.2 (by decide)
  have hn : "n" ∈ front.variableNames := mem_variableNames_ofTokens.2 (by decide)
  have hf : "f" ∈ front.variableNames := mem_variableNames_ofTokens.2 (by decide)
  have hlost : "f" ∉ whole.variableNames := by
    rw [mem_variableNames_ofTokens]
    decide
  obtain ⟨hfunctions, hvariables⟩ := mem_ofTokens_append .cLike a b
  refine ⟨⟨hg, hn, hf⟩, hfunctions "g" hg, ?_, hlost, ((hvariables "f" hf).resolve_left hlost).2⟩
  exact mem_variableNames_ofTokens.2 (by decide)

end SymbolTable

end SourceLens
