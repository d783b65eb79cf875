import SourceLens.Pane.SourceText
import SourceLens.Proofs.Symbol.Table
import SourceLens.Proofs.TokenStream.Progress

/-! # How much there is to scroll through

A text has no more lines, tokens and names than it has bytes, but for one line. -/
namespace SourceLens

open Text

variable {source : String} {language : Language}

namespace Text

theorem length_parts (separator : Char) (s : List Char) :
    (parts separator s).length = s.count separator + 1 := by
  induction s with
  | nil => rfl
  | cons c s ih =>
    by_cases hc : c = separator
    · simp [parts, hc, ih]
    · obtain ⟨first, others, h⟩ := List.exists_cons_of_ne_nil (parts_ne_nil separator s)
      rw [h] at ih
      simp_all [parts]

theorem length_le_utf8ByteSize (s : String) : s.length ≤ s.utf8ByteSize := by
  rw [← utf8Length_toList, ← String.length_toList]
  induction s.toList with
  | nil => exact Nat.le_refl 0
  | cons c x ih =>
    have hc : 0 < c.utf8Size := c.utf8Size_pos
    rw [List.length_cons, utf8Length_cons]
    omega

end Text

namespace Pane.SourceText

theorem lineEnd_notMem_segmentPieces (style : Style) (segment : List Char) :
    Piece.lineEnd ∉ segmentPieces style segment := by
  unfold segmentPieces
  split <;> simp

theorem count_lineEnd_piecesOf (style : Style) (segments : List (List Char)) :
    (piecesOf style segments).count .lineEnd = segments.length - 1 := by
  induction segments using piecesOf.induct with
  | case1 => rfl
  | case2 segment => exact List.count_eq_zero.2 (lineEnd_notMem_segmentPieces style segment)
  | case3 segment rest hrest ih =>
    have hpos : rest.length ≠ 0 := by
      intro h
      exact hrest (List.length_eq_zero_iff.1 h)
    rw [piecesOf, List.count_append, List.count_cons_self, ih,
      List.count_eq_zero.2 (lineEnd_notMem_segmentPieces style segment)]
    · simp only [List.length_cons]
      omega
    · exact hrest

theorem count_lineEnd_tokenPieces (table : SymbolTable) (t : Token) :
    (tokenPieces table t).count .lineEnd = t.text.toList.count '\n' := by
  rw [tokenPieces, count_lineEnd_piecesOf, length_parts, Nat.add_sub_cancel]

theorem length_layLines (pieces : List Piece) :
    (layLines pieces).length = pieces.count .lineEnd + 1 := by
  induction pieces with
  | nil => rfl
  | cons piece pieces ih =>
    cases piece with
    | lineEnd => simp [layLines, ih]
    | span s =>
      obtain ⟨line, lines, h⟩ := List.exists_cons_of_length_eq_add_one ih
      rw [h] at ih
      simp_all [layLines]

theorem length_dropBlankEnd_le (lines : List Line) :
    (dropBlankEnd lines).length ≤ lines.length := by
  unfold dropBlankEnd
  split
  · next line before h =>
    have hlength := congrArg List.length h
    simp only [List.length_reverse, List.length_cons] at hlength ⊢
    omega
  · exact Nat.le_refl _

theorem length_highlight_le (tokens : List Token) (table : SymbolTable) :
    (highlight tokens table).length ≤ (spell tokens).length + 1 := by
  have hcount : (tokens.flatMap (tokenPieces table)).count .lineEnd =
      (spell tokens).toList.count '\n' := by
    induction tokens with
    | nil => rfl
    | cons t tokens ih =>
      rw [List.flatMap_cons, List.count_append, ih, count_lineEnd_tokenPieces, spell_cons,
        String.toList_append, List.count_append]
  calc (highlight tokens table).length
      ≤ (layLines (tokens.flatMap (tokenPieces table))).length := length_dropBlankEnd_le _
    _ = (spell tokens).toList.count '\n' + 1 := by rw [length_layLines, hcount]
    _ ≤ (spell tokens).length + 1 := by
      rw [← String.length_toList]
      exact Nat.succ_le_succ List.count_le_length

end Pane.SourceText

theorem length_tokenize_le (source : String) (language : Language) :
    (tokenize source language).length ≤ source.length := by
  have h : (tokenize source language).length ≤ (spell (tokenize source language)).length :=
    length_le_length_spell fun t ht => text_ne_nil_of_mem_tokenize ht
  rwa [spell_tokenize] at h

namespace Sighting

theorem length_all_le (language : Language) (tokens : List Token) :
    (all language tokens).length ≤ tokens.length := by
  induction tokens with
  | nil => exact Nat.le_refl 0
  | cons t tokens ih =>
    have ht : (of? language t tokens).toList.length ≤ 1 := Option.length_toList_le
    rw [all, List.length_append, List.length_cons]
    omega

theorem length_functionNames_le (signs : List Sighting) :
    (functionNames signs).length ≤ signs.length := by
  induction signs with
  | nil => exact Nat.le_refl 0
  | cons sign signs ih => cases sign <;> simp [functionNames] <;> omega

theorem length_variableNames_le (known : List String) (signs : List Sighting) :
    (variableNames known signs).length ≤ signs.length := by
  induction signs generalizing known with
  | nil => exact Nat.le_refl 0
  | cons sign signs ih =>
    cases sign with
    | function name => exact (ih (name :: known)).trans (Nat.le_succ _)
    | declaration name => exact Nat.succ_le_succ (ih known)
    | use name =>
      rw [variableNames]
      split
      · exact (ih known).trans (Nat.le_succ _)
      · exact Nat.succ_le_succ (ih known)

end Sighting

theorem SymbolTable.longest_ofTokens_le (tokens : List Token) (language : Language) :
    (ofTokens tokens language).longest ≤ tokens.length := by
  have hall := Sighting.length_all_le language tokens
  have hf : (ofTokens tokens language).functionNames.size ≤ tokens.length :=
    (size_sortedNames_le _).trans ((Sighting.length_functionNames_le _).trans hall)
  have hv : (ofTokens tokens language).variableNames.size ≤ tokens.length :=
    (size_sortedNames_le _).trans ((Sighting.length_variableNames_le _ _).trans hall)
  exact Nat.max_le.2 ⟨hf, hv⟩

end SourceLens
