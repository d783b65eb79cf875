import SourceLens.Proofs.Lexeme.Respacing
import SourceLens.Proofs.Symbol.Skeleton
import SourceLens.Proofs.TokenStream.Stream
import SourceLens.Analysis
import Mathlib.Data.List.Forall2

/-! # Other white space, the same tokens

When white space tokens are exchanged for others, the new text has the exchanged tokens, and the
names that it shows are the same. Only the end of a line comment has to stay. -/
namespace SourceLens

open Text Pattern

variable {language : Language} {t t' : Token} {ts ts' : List Token} {rest rest' : List Char}

/-- The second token is white space in the place of white space, and the first one otherwise. -/
def Token.RespacedAs (t t' : Token) : Prop :=
  t'.kind = t.kind ∧
    if t.kind = .whitespace then t'.text ≠ "" ∧ t'.text.toList.all isSourceBlank
    else t'.text = t.text

instance (t t' : Token) : Decidable (t.RespacedAs t') := inferInstanceAs (Decidable (_ ∧ _))

/-- White space behind a line comment begins with a line feed. -/
def LinesEnd (language : Language) (ts : List Token) : Prop :=
  ts.IsChain fun t u => t.kind = .comment → language.lineMark <+: t.text.toList →
    u.kind = .whitespace → u.first? = some '\n'

instance (language : Language) (ts : List Token) : Decidable (LinesEnd language ts) :=
  inferInstanceAs (Decidable (ts.IsChain _))

namespace Token.RespacedAs

theorem eq_of_ne (h : t.RespacedAs t') (hk : t.kind ≠ .whitespace) : t' = t := by
  obtain ⟨hkind, htext⟩ := h
  rw [if_neg hk] at htext
  cases t
  cases t'
  rw [Token.mk.injEq]
  exact ⟨hkind, htext⟩

theorem blanks (h : t.RespacedAs t') (hk : t.kind = .whitespace) : Blanks t'.text.toList := by
  obtain ⟨-, htext⟩ := h
  rw [if_pos hk] at htext
  exact ⟨fun hn => htext.1 (String.toList_eq_nil_iff.1 hn), List.all_eq_true.1 htext.2⟩

end Token.RespacedAs

/-! ## The text -/

theorem Form.eq_blanks_of_kind {form : Form} {text : String}
    (hk : form.kind language text = .whitespace) : form = .blanks :=
  List.mem_singleton.1 (Form.mem_ofKind hk.symm)

theorem Token.Stands.blanks (h : t.Stands language rest) (hk : t.kind = .whitespace) :
    Blanks t.text.toList := by
  obtain ⟨form, hform, hf, -⟩ := h
  rw [hk] at hform
  obtain rfl := Form.eq_blanks_of_kind hform.symm
  exact hf

theorem respaced_spell (h : List.Forall₂ Token.RespacedAs ts ts') (hs : IsStream language ts) :
    Respaced (spell ts).toList (spell ts').toList := by
  induction h with
  | nil => exact .nil
  | @cons t t' ts ts' ht hts ih =>
    rw [spell_cons, spell_cons, String.toList_append, String.toList_append]
    by_cases hk : t.kind = .whitespace
    · exact .gap (hs.1.blanks hk) (ht.blanks hk) (ih hs.2)
    · rw [ht.eq_of_ne hk]
      exact (ih hs.2).append _

/-- A token stands before respaced text, where a line comment keeps the end of its line. -/
theorem Token.Stands.respacedAs (hs : t.Stands language rest) (ht : t.RespacedAs t')
    (hr : Respaced rest rest')
    (hline : t.kind = .comment → language.lineMark <+: t.text.toList →
      (∀ c ∈ rest.head?, c = '\n') → ∀ c ∈ rest'.head?, c = '\n') :
    t'.Stands language rest' := by
  obtain ⟨form, hform, hf, he⟩ := hs
  by_cases hk : t.kind = .whitespace
  · rw [hk] at hform
    obtain rfl := Form.eq_blanks_of_kind hform.symm
    exact ⟨.blanks, ht.1.trans hk, ht.blanks hk, he.respaced nofun hr⟩
  · rw [ht.eq_of_ne hk]
    by_cases hl : form = .line
    · subst hl
      exact ⟨.line, hform, hf, hline hform hf.1 he⟩
    · exact ⟨form, hform, hf, he.respaced hl hr⟩

theorem isStream_respaced (h : List.Forall₂ Token.RespacedAs ts ts') (hs : IsStream language ts)
    (hl : LinesEnd language ts') : IsStream language ts' := by
  induction h with
  | nil => trivial
  | @cons t t' ts ts' ht hts ih =>
    refine ⟨hs.1.respacedAs ht (respaced_spell hts hs.2) ?_, ih hs.2 (List.IsChain.of_cons hl)⟩
    intro hk hp hn
    cases hts with
    | nil => exact nofun
    | @cons u u' us us' hu hus =>
      have hfirst := hs.2.1.text_ne_nil
      have hu₁ : u.kind = .whitespace := by
        obtain ⟨c, hc⟩ := Token.exists_first?_eq_some hfirst
        rw [head?_spell_cons hfirst] at hn
        obtain rfl := hn c hc
        exact hs.2.1.kind_of_isSourceBlank hc (by decide)
      have hu₂ : u'.kind = .whitespace := hu.1.trans hu₁
      rw [head?_spell_cons (hu.blanks hu₁).1]
      have ht' : t' = t := ht.eq_of_ne (by rw [hk]; decide)
      rw [ht'] at hl
      have hfeed := (List.isChain_cons_cons.1 hl).1 hk hp hu₂
      rw [hfeed]
      exact fun c hc => (Option.some.inj hc).symm

/-! ## The names -/

theorem skeleton_respaced (h : List.Forall₂ Token.RespacedAs ts ts') :
    skeleton ts' = skeleton ts := by
  induction h with
  | nil => rfl
  | @cons t t' ts ts' ht hts ih =>
    by_cases hk : t.kind = .whitespace
    · rw [skeleton_cons_blank (ht.1.trans hk), skeleton_cons_blank hk, ih]
    · rw [ht.eq_of_ne hk, skeleton_cons hk, skeleton_cons hk, ih]

theorem Sighting.all_respaced (h : List.Forall₂ Token.RespacedAs ts ts') :
    all language ts' = all language ts := by
  rw [← all_skeleton ts', skeleton_respaced h, all_skeleton]

/-- The white space between tokens matters neither to the tokens nor to the names, as long as
there is some wherever there was some and every line comment still ends with its line. -/
theorem analyze_respaced (source : String) (language : Language)
    (h : List.Forall₂ Token.RespacedAs (tokenize source language) ts')
    (hl : LinesEnd language ts') :
    tokenize (spell ts') language = ts' ∧
      (analyze (spell ts') language).symbols = (analyze source language).symbols := by
  have hstream := isStream_respaced h (isStream_tokenize source language) hl
  have htokens : tokenize (spell ts') language = ts' := tokenize_spell_iff.2 hstream
  refine ⟨htokens, ?_⟩
  simp only [analyze, SymbolTable.ofTokens, htokens, Sighting.all_respaced h]

theorem analyze_respaced_open_quote :
    let source := "int n // c\n= '\\ f (2)"
    let ts' : List Token := [⟨.keyword, "int"⟩, ⟨.whitespace, "\t"⟩, ⟨.identifier, "n"⟩,
      ⟨.whitespace, "\n"⟩, ⟨.comment, "// c"⟩, ⟨.whitespace, "\n  "⟩, ⟨.operator, "="⟩,
      ⟨.whitespace, "\u00a0"⟩, ⟨.unknown, "'"⟩, ⟨.unknown, "\\"⟩, ⟨.whitespace, "  "⟩,
      ⟨.identifier, "f"⟩, ⟨.whitespace, "\r\n"⟩, ⟨.operator, "("⟩, ⟨.number, "2"⟩,
      ⟨.operator, ")"⟩]
    List.Forall₂ Token.RespacedAs (tokenize source .cLike) ts' ∧ LinesEnd .cLike ts' ∧
      tokenize (spell ts') .cLike = ts' ∧
      (analyze (spell ts') .cLike).symbols = (analyze source .cLike).symbols := by
  intro source ts'
  have hlength : (tokenize source .cLike).length = ts'.length := by decide +kernel
  have hzip : ∀ p ∈ (tokenize source .cLike).zip ts', p.1.RespacedAs p.2 := by decide +kernel
  have h : List.Forall₂ Token.RespacedAs (tokenize source .cLike) ts' :=
    List.forall₂_iff_zip.2 ⟨hlength, fun hab => hzip _ hab⟩
  have hl : LinesEnd .cLike ts' := by decide +kernel
  exact ⟨h, hl, analyze_respaced source .cLike h hl⟩

end SourceLens
