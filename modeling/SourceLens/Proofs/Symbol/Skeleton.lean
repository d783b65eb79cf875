import SourceLens.Proofs.Symbol.Places
import Mathlib.Data.List.Forall2

/-! # What the names of a token list depend on

White space never matters to the names that a token list shows, and of all other tokens that are no
identifiers, keywords or operators it matters only that they stand where they stand. A list and its
skeleton, which keeps nothing else, show the same names. -/
namespace SourceLens

variable {language : Language} {t u : Token} {ts us : List Token}

/-- The kinds of tokens whose texts count. -/
def TokenKind.TextCounts (kind : TokenKind) : Prop :=
  kind = .identifier ∨ kind = .keyword ∨ kind = .operator

instance (kind : TokenKind) : Decidable kind.TextCounts := inferInstanceAs (Decidable (_ ∨ _))

namespace Token

/-- Tokens of one kind, and of one text where the text counts. -/
def Alike (t u : Token) : Prop := t.kind = u.kind ∧ (t.kind.TextCounts → t.text = u.text)

instance (t u : Token) : Decidable (t.Alike u) := inferInstanceAs (Decidable (_ ∧ _))

/-- The token without a text that does not count. -/
def bare (t : Token) : Token := if t.kind.TextCounts then t else ⟨t.kind, ""⟩

@[simp] theorem kind_bare (t : Token) : t.bare.kind = t.kind := by
  rw [bare]
  split <;> rfl

theorem bare_of_textCounts (h : t.kind.TextCounts) : t.bare = t := if_pos h

@[simp] theorem isOperator_bare (t : Token) (spelling : String) :
    t.bare.isOperator spelling = t.isOperator spelling := by
  by_cases h : t.kind = .operator
  · rw [bare_of_textCounts (.inr (.inr h))]
  · rw [isOperator, isOperator, kind_bare, beq_false_of_ne h, Bool.false_and, Bool.false_and]

theorem bare_eq_bare_iff : t.bare = u.bare ↔ t.Alike u := by
  constructor
  · intro h
    have hkind : t.kind = u.kind := by rw [← kind_bare t, h, kind_bare]
    refine ⟨hkind, fun ht => ?_⟩
    rw [bare_of_textCounts ht, bare_of_textCounts (hkind ▸ ht)] at h
    rw [h]
  · rintro ⟨hkind, htext⟩
    by_cases ht : t.kind.TextCounts
    · rw [bare_of_textCounts ht, bare_of_textCounts (hkind ▸ ht), Token.mk.injEq]
      exact ⟨hkind, htext ht⟩
    · rw [bare, if_neg ht, bare, if_neg (hkind ▸ ht), hkind]

end Token

/-- The tokens that are not white space. -/
def visible (ts : List Token) : List Token := ts.filter fun t => t.kind ≠ .whitespace

/-- The visible tokens without the texts that do not count. -/
def skeleton (ts : List Token) : List Token := (visible ts).map Token.bare

theorem skeleton_cons_blank (h : t.kind = .whitespace) (ts : List Token) :
    skeleton (t :: ts) = skeleton ts := by
  simp [skeleton, visible, h]

theorem skeleton_cons (h : t.kind ≠ .whitespace) (ts : List Token) :
    skeleton (t :: ts) = t.bare :: skeleton ts := by
  simp [skeleton, visible, h]

/-- Lists have one skeleton when their visible tokens are alike, one by one. -/
theorem skeleton_eq_skeleton_iff :
    skeleton ts = skeleton us ↔ List.Forall₂ Token.Alike (visible ts) (visible us) := by
  rw [skeleton, skeleton, ← List.forall₂_eq_eq_eq, List.forall₂_map_left_iff,
    List.forall₂_map_right_iff]
  simp only [Token.bare_eq_bare_iff]

/-! ## Looking ahead -/

theorem ahead?_skeleton (ts : List Token) : ahead? (skeleton ts) = (ahead? ts).map Token.bare := by
  induction ts with
  | nil => rfl
  | cons t ts ih =>
    by_cases h : t.kind = .whitespace
    · rw [skeleton_cons_blank h, ih]
      simp [ahead?, h]
    · rw [skeleton_cons h]
      simp [ahead?, h]

theorem followedBy_skeleton (ts : List Token) (spelling : String) :
    followedBy (skeleton ts) spelling = followedBy ts spelling := by
  rw [followedBy, followedBy, ahead?_skeleton]
  cases ahead? ts with
  | none => rfl
  | some t => exact t.isOperator_bare spelling

theorem declarator?_skeleton (ts : List Token) : declarator? (skeleton ts) = declarator? ts := by
  induction ts with
  | nil => rfl
  | cons t ts ih =>
    by_cases h : t.kind = .whitespace
    · rw [skeleton_cons_blank h, ih, declarator?, if_pos (.inl h)]
    · rw [skeleton_cons h, declarator?, declarator?, ih, followedBy_skeleton, Token.kind_bare,
        Token.isOperator_bare]
      by_cases hi : t.kind = .identifier
      · rw [Token.bare_of_textCounts (.inl hi)]
      · simp [hi]

/-! ## The signs -/

namespace Sighting

/-- A token whose text does not count is no sign. -/
theorem of?_eq_none (h : ¬t.kind.TextCounts) (ts : List Token) : of? language t ts = none := by
  rw [TokenKind.TextCounts, not_or, not_or] at h
  obtain ⟨kind, text⟩ := t
  cases language <;> cases kind <;> simp_all [of?, inCLike?, inPython?]

theorem of?_skeleton (t : Token) (ts : List Token) :
    of? language t.bare (skeleton ts) = of? language t ts := by
  by_cases h : t.kind.TextCounts
  · rw [Token.bare_of_textCounts h]
    cases language with
    | cLike => simp only [of?, inCLike?, followedBy_skeleton, declarator?_skeleton]
    | python =>
      simp only [of?, inPython?, followedBy_skeleton, ahead?_skeleton]
      cases ahead? ts with
      | none => rfl
      | some u =>
        by_cases hu : u.kind = .identifier
        · simp [Token.bare_of_textCounts (.inl hu)]
        · simp [hu]
  · have hb : ¬t.bare.kind.TextCounts := by rwa [Token.kind_bare]
    rw [of?_eq_none h, of?_eq_none hb]

theorem all_skeleton (ts : List Token) : all language (skeleton ts) = all language ts := by
  induction ts with
  | nil => rfl
  | cons t ts ih =>
    by_cases h : t.kind = .whitespace
    · have hsign : of? language t ts = none := of?_eq_none (by rw [h]; decide) ts
      rw [skeleton_cons_blank h, ih, all, hsign, Option.toList_none, List.nil_append]
    · rw [skeleton_cons h, all, all, of?_skeleton, ih]

end Sighting

/-! ## The tables -/

theorem skeleton_append (ts us : List Token) : skeleton (ts ++ us) = skeleton ts ++ skeleton us := by
  simp [skeleton, visible]

theorem skeleton_of_blank (h : ∀ t ∈ ts, t.kind = .whitespace) : skeleton ts = [] := by
  simpa [skeleton, visible] using h

namespace SymbolTable

theorem ofTokens_skeleton (ts : List Token) (language : Language) :
    ofTokens (skeleton ts) language = ofTokens ts language := by
  rw [ofTokens, ofTokens, Sighting.all_skeleton]

theorem ofTokens_congr (h : skeleton ts = skeleton us) (language : Language) :
    ofTokens ts language = ofTokens us language := by
  rw [← ofTokens_skeleton ts, h, ofTokens_skeleton]

/-- Lists whose visible tokens are alike, one by one, have the same table. So white space may come
and go anywhere, and a token may change a text that does not count. -/
theorem ofTokens_eq_of_alike (language : Language) :
    (∀ ts us, List.Forall₂ Token.Alike (visible ts) (visible us) →
      ofTokens ts language = ofTokens us language) ∧
      (∀ a blanks b, (∀ t ∈ blanks, t.kind = .whitespace) →
        ofTokens (a ++ blanks ++ b) language = ofTokens (a ++ b) language) ∧
      ∀ a b kind text text', ¬kind.TextCounts →
        ofTokens (a ++ ⟨kind, text⟩ :: b) language = ofTokens (a ++ ⟨kind, text'⟩ :: b) language := by
  refine ⟨?_, ?_, ?_⟩
  · intro ts us h
    exact ofTokens_congr (skeleton_eq_skeleton_iff.2 h) language
  · intro a blanks b h
    apply ofTokens_congr
    rw [skeleton_append, skeleton_append, skeleton_of_blank h, List.append_nil, skeleton_append]
  · intro a b kind text text' h
    apply ofTokens_congr
    rw [skeleton_append, skeleton_append]
    by_cases hk : kind = .whitespace
    · rw [skeleton_cons_blank (t := ⟨kind, text⟩) hk, skeleton_cons_blank (t := ⟨kind, text'⟩) hk]
    · have hbare : (⟨kind, text⟩ : Token).bare = (⟨kind, text'⟩ : Token).bare :=
        Token.bare_eq_bare_iff.2 ⟨rfl, fun ht => absurd ht h⟩
      rw [skeleton_cons (t := ⟨kind, text⟩) hk, hbare, skeleton_cons (t := ⟨kind, text'⟩) hk]

theorem ofTokens_eq_of_alike_declaration :
    let ts : List Token := [⟨.keyword, "int"⟩, ⟨.operator, "*"⟩, ⟨.identifier, "n"⟩,
      ⟨.comment, "// f ("⟩, ⟨.whitespace, "\n"⟩, ⟨.string, "\"n\""⟩, ⟨.identifier, "f"⟩,
      ⟨.operator, "("⟩, ⟨.number, "2"⟩]
    let us : List Token := [⟨.whitespace, " "⟩, ⟨.keyword, "int"⟩, ⟨.whitespace, "\t"⟩,
      ⟨.operator, "*"⟩, ⟨.whitespace, ""⟩, ⟨.identifier, "n"⟩, ⟨.comment, "/* */"⟩, ⟨.string, "'"⟩,
      ⟨.identifier, "f"⟩, ⟨.whitespace, "\n"⟩, ⟨.operator, "("⟩, ⟨.number, ""⟩]
    let blanks : List Token := [⟨.whitespace, "\r"⟩, ⟨.whitespace, "\n"⟩]
    (List.Forall₂ Token.Alike (visible ts) (visible us) ∧
      (∀ t ∈ blanks, t.kind = .whitespace) ∧ ¬TokenKind.unknown.TextCounts) ∧
      ofTokens ts .cLike = ofTokens us .cLike ∧
      ofTokens (ts ++ blanks ++ us) .cLike = ofTokens (ts ++ us) .cLike ∧
      ofTokens (ts ++ ⟨.unknown, "$"⟩ :: us) .cLike = ofTokens (ts ++ ⟨.unknown, "="⟩ :: us) .cLike ∧
      "n" ∈ (ofTokens us .cLike).variableNames ∧ "f" ∈ (ofTokens us .cLike).functionNames := by
  intro ts us blanks
  have halike : List.Forall₂ Token.Alike (visible ts) (visible us) := by decide
  have hblanks : ∀ t ∈ blanks, t.kind = .whitespace := by decide
  have hunknown : ¬TokenKind.unknown.TextCounts := by decide
  obtain ⟨hvisible, hinsert, hreplace⟩ := ofTokens_eq_of_alike .cLike
  refine ⟨⟨halike, hblanks, hunknown⟩, hvisible ts us halike, hinsert ts blanks us hblanks,
    hreplace ts us .unknown "$" "=" hunknown, ?_, ?_⟩
  · exact mem_sortedNames.2 (by decide)
  · exact mem_sortedNames.2 (by decide)

end SymbolTable

end SourceLens
