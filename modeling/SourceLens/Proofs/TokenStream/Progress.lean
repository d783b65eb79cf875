import SourceLens.Proofs.TokenStream.Stream
import SourceLens.TokenStream.Session
import Mathlib.Logic.Function.Iterate

/-! # A cursor walks through the whole text

Asked again and again, a cursor gives the tokens of its text in order. It never stands inside a
character, and it moves on with every token until the text is used up. -/
namespace SourceLens

open Text

variable {source : String} {language : Language}

theorem length_le_length_spell {ts : List Token} (h : ∀ t ∈ ts, t.text.toList ≠ []) :
    ts.length ≤ (spell ts).length := by
  induction ts with
  | nil => exact Nat.zero_le _
  | cons t ts ih =>
    have ht := List.length_pos_iff.2 (h t List.mem_cons_self)
    have hts := ih fun u hu => h u (List.mem_cons_of_mem t hu)
    rw [String.length_toList] at ht
    rw [spell_cons, String.length_append, List.length_cons]
    omega

namespace Cursor

/-- The cursor behind the first `n` tokens of a text. -/
def atToken (source : String) (language : Language) (n : Nat) : Cursor :=
  ⟨language, (spell ((tokenize source language).take n)).utf8ByteSize,
    (spell ((tokenize source language).drop n)).toList⟩

theorem atToken_zero (source : String) (language : Language) :
    atToken source language 0 = start source language := by
  rw [atToken, List.take_zero, List.drop_zero, spell_tokenize]
  rfl

theorem next_atToken (source : String) (language : Language) (n : Nat) :
    (atToken source language n).next =
      ((tokenize source language)[n]?, atToken source language (n + 1)) := by
  by_cases hn : n < (tokenize source language).length
  · have hd := List.drop_eq_getElem_cons hn
    have hstream := isStream_tokenize source language
    rw [← List.take_append_drop n (tokenize source language)] at hstream
    have hs := hstream.of_append
    have ht : nextToken? language (spell ((tokenize source language).drop n)).toList =
        some ((tokenize source language)[n],
          (spell ((tokenize source language).drop (n + 1))).toList) := by
      rw [hd] at hs ⊢
      exact hs.nextToken?_spell
    simp only [next, atToken, ht, utf8Length_toList, List.getElem?_eq_getElem hn]
    rw [List.take_add_one, List.getElem?_eq_getElem hn, spell_append, String.utf8ByteSize_append]
    simp
  · rw [Nat.not_lt] at hn
    have ht : nextToken? language (spell ((tokenize source language).drop n)).toList = none := by
      rw [nextToken?_eq_none_iff, List.drop_eq_nil_of_le hn]
      rfl
    simp only [next, atToken, ht, List.getElem?_eq_none hn]
    rw [List.take_of_length_le hn, List.take_of_length_le (Nat.le_succ_of_le hn),
      List.drop_eq_nil_of_le hn, List.drop_eq_nil_of_le (Nat.le_succ_of_le hn)]

theorem iterate_next (source : String) (language : Language) (n : Nat) :
    (fun c : Cursor => c.next.2)^[n] (start source language) = atToken source language n := by
  induction n with
  | zero => exact (atToken_zero source language).symm
  | succ n ih => rw [Function.iterate_succ_apply', ih, next_atToken]

theorem isValid_position_atToken (source : String) (language : Language) (n : Nat) :
    (⟨(atToken source language n).position⟩ : String.Pos.Raw).IsValid source := by
  rw [String.Pos.Raw.isValid_iff_exists_append]
  refine ⟨_, spell ((tokenize source language).drop n), ?_, rfl⟩
  rw [← spell_append, List.take_append_drop, spell_tokenize]

theorem position_atToken_lt {n : Nat} (h : n < (tokenize source language).length) :
    (atToken source language n).position < (atToken source language (n + 1)).position := by
  have ht := text_ne_nil_of_mem_tokenize (List.getElem_mem h)
  simp only [atToken]
  rw [List.take_add_one, List.getElem?_eq_getElem h, spell_append, String.utf8ByteSize_append]
  simp only [Option.toList_some, spell_cons, spell_nil, String.append_empty]
  have hpos : (tokenize source language)[n].text.utf8ByteSize ≠ 0 := by
    rw [ne_eq, String.utf8ByteSize_eq_zero_iff, ← String.toList_eq_nil_iff]
    exact ht
  omega

/-- What a cursor does that is asked for one token after another: it gives the tokens of the
text, which spell it, and its position is the size of what it gave. -/
theorem next_in_turn (source : String) (language : Language) :
    let tokens := tokenize source language
    let cursor := fun n => (fun c : Cursor => c.next.2)^[n] (start source language)
    (∀ n, (cursor n).next.1 = tokens[n]?) ∧
      tokens.length ≤ source.length ∧ spell tokens = source ∧ (∀ t ∈ tokens, t.text ≠ "") ∧
      (∀ n, (cursor n).position = (spell (tokens.take n)).utf8ByteSize ∧
        (⟨(cursor n).position⟩ : String.Pos.Raw).IsValid source ∧
        spell (tokens.take n) ++ String.ofList (cursor n).rest = source) ∧
      (∀ n < tokens.length, (cursor n).position < (cursor (n + 1)).position) ∧
      (cursor tokens.length).position = source.utf8ByteSize := by
  intro tokens cursor
  have hcursor : ∀ n, cursor n = atToken source language n := iterate_next source language
  have hspell : spell tokens = source := spell_tokenize source language
  refine ⟨?_, ?_, hspell, ?_, ?_, ?_, ?_⟩
  · intro n
    rw [hcursor, next_atToken]
  · have h : tokens.length ≤ (spell tokens).length :=
      length_le_length_spell fun t ht => text_ne_nil_of_mem_tokenize ht
    rwa [hspell] at h
  · intro t ht he
    exact text_ne_nil_of_mem_tokenize ht (String.toList_eq_nil_iff.2 he)
  · intro n
    rw [hcursor]
    refine ⟨rfl, isValid_position_atToken source language n, ?_⟩
    rw [atToken, String.ofList_toList, ← spell_append, List.take_append_drop, hspell]
  · intro n hn
    rw [hcursor, hcursor]
    exact position_atToken_lt hn
  · rw [hcursor, atToken, List.take_length, hspell]

end Cursor

end SourceLens
