import SourceLens.Proofs.Lexeme.Stray
import SourceLens.Proofs.TokenStream.Stream

/-! # What is not closed once is not closed later

Where the rules have looked in vain for the end of a string or of a block comment, there is none in
the rest of the text. A later opener of the same sort has nothing to find either, whatever tokens
stand in between. -/
namespace SourceLens

open Text Pattern

variable {language : Language} {s rest : List Char} {q : Char} {t u v : Token} {ts : List Token}

/-! ## Quotes -/

/-- A quote that nothing closes is a token by itself. -/
theorem nextToken?_of_open_quote (hq : q = '"' ∨ q = '\'') (h : closeQuote? q s = none) :
    nextToken? language (q :: s) = some (⟨.unknown, String.singleton q⟩, s) :=
  (Stray.of_closeQuote? hq h).nextToken?

theorem Token.Stands.closeQuote?_eq_none (hq : q = '"' ∨ q = '\'')
    (h : Token.Stands language ⟨.unknown, String.singleton q⟩ rest) :
    closeQuote? q rest = none := by
  obtain ⟨form, hk, -, he⟩ := h
  obtain rfl : form = .lone := List.mem_singleton.1 (Form.mem_ofKind hk)
  obtain ⟨-, hs⟩ := he
  rw [String.toList_singleton] at hs
  exact splitQuoted?_eq_none_iff.1 hs q rest rfl hq

theorem IsStream.unknown_of_open_quote (hq : q = '"' ∨ q = '\'') (hs : IsStream language ts)
    (h : closeQuote? q (spell ts).toList = none) (hu : u ∈ ts) (hc : u.first? = some q) :
    u.kind = .unknown := by
  obtain ⟨us, vs, rfl⟩ := List.append_of_mem hu
  obtain ⟨x, hx⟩ := Token.exists_cons_of_first? hc
  have hnext := hs.of_append.nextToken?_spell
  rw [spell_cons, String.toList_append, hx, List.cons_append] at hnext
  rw [spell_append, spell_cons, String.toList_append, String.toList_append, hx,
    List.cons_append] at h
  have hopen := closeQuote?_eq_none_of_append (ne_backslash_of_quote hq) h
  rw [nextToken?_of_open_quote hq hopen] at hnext
  rw [← (Prod.mk.inj (Option.some.inj hnext)).1]

/-! ## Block comments -/

/-- A slash is an operator only where it opens no comment. -/
theorem Token.Stands.splitComment?_slash_eq_none
    (h : Token.Stands language ⟨.operator, "/"⟩ rest) :
    splitComment? language ('/' :: rest) = none := by
  obtain ⟨form, hk, hf, he⟩ := h
  have hforms : form = .double ∨ form = .single := by simpa [Form.ofKind] using Form.mem_ofKind hk
  rcases hforms with rfl | rfl
  · have hslash : String.ofList "/".toList ∉ doubleOperators := by decide
    exact absurd hf hslash
  · exact he.2

/-- A comment that starts like a block comment is one, so it holds its closer. -/
theorem Token.Stands.isInfix_closer (h : v.Stands language rest) (hk : v.kind = .comment)
    (hp : ['/', '*'] <+: v.text.toList) : ['*', '/'] <:+: v.text.toList := by
  obtain ⟨form, hform, hf, -⟩ := h
  rw [hk] at hform
  have hforms : form = .line ∨ form = .block := by simpa [Form.ofKind] using Form.mem_ofKind hform
  rcases hforms with rfl | rfl
  · obtain ⟨x, hx⟩ := hp
    obtain ⟨hm, -⟩ := hf
    rw [← hx] at hm
    cases language <;> simp [Language.lineMark] at hm
  · obtain ⟨inner, body, -, hb, hx⟩ := splitDelimited?_eq_some_iff.1 hf.2
    rw [hx]
    exact ((suffix_of_splitThrough? hb).trans (List.suffix_append _ body)).isInfix

theorem IsStream.not_block_comment (hs : IsStream .cLike (⟨.operator, "/"⟩ :: u :: ts))
    (hu : u.first? = some '*') (hv : v ∈ u :: ts) (hk : v.kind = .comment) :
    ¬['/', '*'] <+: v.text.toList := by
  intro hp
  obtain ⟨x, hx⟩ := Token.exists_cons_of_first? hu
  have hc := hs.1.splitComment?_slash_eq_none
  rw [spell_cons, String.toList_append, hx, List.cons_append] at hc
  have hopen : ¬['*', '/'] <:+: x ++ (spell ts).toList :=
    (splitComment?_eq_none_iff.1 hc).2 rfl _ rfl
  rcases List.mem_cons.1 hv with rfl | hv
  · rw [hx] at hp
    simp at hp
  · obtain ⟨us, vs, rfl⟩ := List.append_of_mem hv
    have hclosed := (hs.2.2.of_append.1).isInfix_closer hk hp
    have hin := hclosed.trans (infix_spell_of_mem hv)
    exact hopen (hin.trans (List.suffix_append x _).isInfix)

/-! ## Triple quotes -/

/-- Two quotes are a string by themselves only where they do not belong to three. -/
theorem Token.Stands.splitTriple?_eq_none
    (h : Token.Stands language ⟨.string, String.ofList [q, q]⟩ rest) :
    splitTriple? language (q :: q :: rest) = none := by
  obtain ⟨form, hk, hf, he⟩ := h
  have hforms : form = .triple ∨ form = .quoted := by simpa [Form.ofKind] using Form.mem_ofKind hk
  rcases hforms with rfl | rfl
  · obtain ⟨-, c, -, h⟩ := splitTriple?_eq_some_iff.1 hf
    obtain ⟨inner, body, hx, -, -⟩ := splitDelimited?_eq_some_iff.1 h
    rw [String.toList_ofList] at hx
    cases hx
  · rwa [Form.Ends, String.toList_ofList] at he

/-- Without a later triple no triple-quoted string begins here: the first two quotes are one. -/
theorem nextToken?_of_open_triple (hq : q = '"' ∨ q = '\'') (h : ¬[q, q, q] <:+: s) :
    nextToken? language (q :: q :: q :: s) =
      some (⟨.string, String.ofList [q, q]⟩, q :: s) := by
  have ht : splitTriple? language (q :: q :: q :: s) = none := by
    rw [splitTriple?_eq_none_iff]
    rintro - c - inner hc
    cases hc
    exact h
  have hs : splitQuoted? (q :: q :: q :: s) = some ([q, q], q :: s) :=
    splitQuoted?_eq_some_iff.2
      ⟨q, _, [q], rfl, hq, closeQuote?_quote (ne_backslash_of_quote hq) _, rfl⟩
  have hl : lexeme? language (q :: q :: q :: s) = some (.string, [q, q], q :: s) := by
    apply lexeme?_of_quote hq
    rw [ht, hs, Option.none_or]
  exact nextToken?_of_lexeme? hl

theorem IsStream.not_triple (hq : q = '"' ∨ q = '\'')
    (hs : IsStream .python (⟨.string, String.ofList [q, q]⟩ :: u :: ts))
    (hu : u.first? = some q) (hv : v ∈ u :: ts) : ¬[q, q, q] <+: v.text.toList := by
  intro hp
  obtain ⟨x, hx⟩ := Token.exists_cons_of_first? hu
  have ht := hs.1.splitTriple?_eq_none
  rw [spell_cons, String.toList_append, hx, List.cons_append] at ht
  have hopen : ¬[q, q, q] <:+: x ++ (spell ts).toList :=
    splitTriple?_eq_none_iff.1 ht rfl q hq _ rfl
  rcases List.mem_cons.1 hv with rfl | hv
  · obtain ⟨y, hy⟩ := hp
    rw [← hy] at hx
    obtain rfl : q :: q :: y = x := (List.cons.inj hx).2
    have hrest : ¬[q, q, q] <:+: y ++ (spell ts).toList := by
      intro hin
      exact hopen (hin.trans (List.suffix_append [q, q] _).isInfix)
    have hnext := hs.2.nextToken?_spell
    rw [spell_cons, String.toList_append, ← hy, List.append_assoc] at hnext
    rw [List.cons_append, List.cons_append, List.cons_append, List.nil_append,
      nextToken?_of_open_triple hq hrest] at hnext
    obtain ⟨rfl, -⟩ := Prod.mk.inj (Option.some.inj hnext)
    rw [String.toList_ofList] at hy
    cases hy
  · have hin := hp.isInfix.trans (infix_spell_of_mem hv)
    exact hopen (hin.trans (List.suffix_append x _).isInfix)

/-- An unclosed string, block comment or triple-quoted string shows that there is no end for another
one: behind an unknown quote that quote is always unknown, behind a slash and a star that are no
comment no block comment follows, and behind two quotes that a third one follows no triple does. -/
theorem unclosed_stays_unclosed (source : String) (language : Language) :
    let tokens := tokenize source language
    (∀ q later, (q = '"' ∨ q = '\'') → ⟨.unknown, String.singleton q⟩ :: later <:+ tokens →
        ∀ u ∈ later, u.first? = some q → u.kind = .unknown) ∧
      (language = .cLike → ∀ u later, ⟨.operator, "/"⟩ :: u :: later <:+ tokens →
        u.first? = some '*' →
        ∀ v ∈ u :: later, v.kind = .comment → ¬['/', '*'] <+: v.text.toList) ∧
      (language = .python → ∀ q u later, (q = '"' ∨ q = '\'') →
        ⟨.string, String.ofList [q, q]⟩ :: u :: later <:+ tokens → u.first? = some q →
        ∀ v ∈ u :: later, ¬[q, q, q] <+: v.text.toList) := by
  intro tokens
  have hstream : IsStream language tokens := isStream_tokenize source language
  refine ⟨?_, ?_, ?_⟩
  · intro q later hq hs u hu hc
    obtain ⟨hquote, hlater⟩ := hstream.of_suffix hs
    exact hlater.unknown_of_open_quote hq (hquote.closeQuote?_eq_none hq) hu hc
  · rintro rfl u later hs hu v hv hk
    exact (hstream.of_suffix hs).not_block_comment hu hv hk
  · rintro rfl q u later hq hs hu v hv
    exact (hstream.of_suffix hs).not_triple hq hu hv

end SourceLens
