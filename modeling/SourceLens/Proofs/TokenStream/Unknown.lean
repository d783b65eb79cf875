import SourceLens.Proofs.Lexeme.Stray
import SourceLens.Proofs.TokenStream.Stream

/-! # Which rule makes a token

A token is unknown where a character is stray. Everywhere else it is the lexeme of the first rule
that cuts one off. -/
namespace SourceLens

variable {language : Language} {s x rest : List Char} {c : Char} {t : Token}

/-- The rule is the first one in the table that cuts a lexeme off the text. -/
def Rule.IsFirst (rule : Rule) (language : Language) (s x rest : List Char) : Prop :=
  ∃ earlier later, table = earlier ++ rule :: later ∧
    (∀ r ∈ earlier, r.split? language s = none) ∧ rule.split? language s = some (x, rest)

theorem lexeme?_eq_some_iff {kind : TokenKind} :
    lexeme? language s = some (kind, x, rest) ↔
      ∃ rule : Rule, rule.IsFirst language s x rest ∧ rule.kind = kind := by
  rw [lexeme?, List.findSome?_eq_some_iff]
  simp only [Option.map_eq_some_iff, Option.map_eq_none_iff, Prod.mk.injEq]
  constructor
  · rintro ⟨earlier, rule, later, htable, ⟨split, hsplit, hkind, rfl⟩, hnone⟩
    exact ⟨rule, ⟨earlier, later, htable, hnone, hsplit⟩, hkind⟩
  · rintro ⟨rule, ⟨earlier, later, htable, hnone, hsplit⟩, hkind⟩
    exact ⟨earlier, rule, later, htable, ⟨_, hsplit, hkind, rfl⟩, hnone⟩

/-- No rule makes unknown tokens or keywords. -/
theorem Rule.IsFirst.kind_ne {rule : Rule} (h : rule.IsFirst language s x rest) :
    rule.kind ≠ .unknown ∧ rule.kind ≠ .keyword := by
  obtain ⟨earlier, later, htable, -, -⟩ := h
  have hkinds : ∀ r ∈ table, r.kind ≠ .unknown ∧ r.kind ≠ .keyword := by decide
  apply hkinds
  rw [htable]
  exact List.mem_append_right earlier List.mem_cons_self

theorem classify_eq_ite (language : Language) (kind : TokenKind) (text : String) :
    classify language kind text =
      if kind = .identifier ∧ text ∈ language.keywords then .keyword else kind := by
  simp only [classify, Language.isKeyword, List.contains_iff_mem]

theorem eq_unknown_of_stray (h : nextToken? language (c :: s) = some (t, rest))
    (hc : Stray language c s) : t = ⟨.unknown, String.singleton c⟩ := by
  rw [hc.nextToken?] at h
  exact (Prod.mk.inj (Option.some.inj h)).1.symm

theorem exists_isFirst_of_not_stray (h : nextToken? language (c :: s) = some (t, rest))
    (hc : ¬Stray language c s) :
    ∃ rule : Rule, rule.IsFirst language (c :: s) t.text.toList rest ∧
      t.kind = if rule.kind = .identifier ∧ t.text ∈ language.keywords then .keyword
        else rule.kind := by
  rw [← lexeme?_eq_none_iff, ← ne_eq, Option.ne_none_iff_exists'] at hc
  obtain ⟨⟨kind, x, r⟩, hl⟩ := hc
  obtain ⟨rule, hfirst, rfl⟩ := lexeme?_eq_some_iff.1 hl
  rw [nextToken?_of_lexeme? hl] at h
  cases h
  exact ⟨rule, by rwa [String.toList_ofList], classify_eq_ite _ _ _⟩

theorem kind_eq_unknown_iff (h : nextToken? language (c :: s) = some (t, rest)) :
    t.kind = .unknown ↔ Stray language c s := by
  by_cases hc : Stray language c s
  · simp [eq_unknown_of_stray h hc, hc]
  · obtain ⟨rule, hfirst, hkind⟩ := exists_isFirst_of_not_stray h hc
    rw [hkind]
    split <;> simp [hfirst.kind_ne.1, hc]

/-- What decides the kind of a token: the character where the tokens before it end, and the text
behind that. The token is unknown just if the character is stray there, and then it is this
character. Otherwise it is the lexeme of the first rule that cuts one off, and of the kind of that
rule, where identifiers that the language reserves are keywords. -/
theorem unknown_iff_stray (source : String) (language : Language)
    (n : Fin (tokenize source language).length) :
    let t := (tokenize source language)[n]
    ∃ c s, source.toList = (spell ((tokenize source language).take n)).toList ++ c :: s ∧
      (t.kind = .unknown ↔ Stray language c s) ∧
      (Stray language c s → t.text = String.singleton c) ∧
      (¬Stray language c s → ∃ (rule : Rule) (rest : List Char),
        rule.IsFirst language (c :: s) t.text.toList rest ∧
          t.kind = if rule.kind = .identifier ∧ t.text ∈ language.keywords then .keyword
            else rule.kind) := by
  intro t
  have hdrop : (tokenize source language).drop n =
      t :: (tokenize source language).drop (n + 1) := List.drop_eq_getElem_cons n.isLt
  have hsource := spell_tokenize source language
  have hstream := isStream_tokenize source language
  rw [← List.take_append_drop n (tokenize source language), hdrop] at hsource hstream
  have hnext := hstream.of_append.nextToken?_spell
  obtain ⟨c, x, hc⟩ := List.exists_cons_of_ne_nil hstream.of_append.1.text_ne_nil
  rw [spell_cons, String.toList_append, hc, List.cons_append] at hnext
  refine ⟨c, _, ?_, kind_eq_unknown_iff hnext, fun hstray => ?_, fun hstray => ?_⟩
  · rw [← List.cons_append, ← hc, ← String.toList_append, ← spell_cons, ← String.toList_append,
      ← spell_append, hsource]
  · rw [eq_unknown_of_stray hnext hstray]
  · obtain ⟨rule, hfirst, hkind⟩ := exists_isFirst_of_not_stray hnext hstray
    exact ⟨rule, _, hfirst, hkind⟩

end SourceLens
