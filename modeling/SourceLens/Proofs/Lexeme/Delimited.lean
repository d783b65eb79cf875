import SourceLens.Proofs.Lexeme.Length
import SourceLens.Proofs.Lexeme.Order
import Mathlib.Order.Bounds.Basic

/-! # The shortest delimited text

Of all the ways to read an opener, a body and a closer off the start of a text, the match is the
shortest. The closer stands behind the whole opener, whatever characters the two share. -/
namespace SourceLens.Pattern

open Text

variable {opener closer source : String} {n : ℕ}

/-- An opener, a body and a closer start the source and take `n` bytes. -/
def StartsDelimited (opener closer source : String) (n : ℕ) : Prop :=
  ∃ body rest, source = opener ++ body ++ closer ++ rest ∧
    (opener ++ body ++ closer).utf8ByteSize = n

/-- A closer is found where it stands or before, so the text is cut off whole or in part. -/
theorem exists_splitDelimited?_append (opener body closer rest : List Char) :
    ∃ x t, splitDelimited? opener closer (opener ++ body ++ closer ++ rest) = some (x, t) ∧
      x <+: opener ++ body ++ closer := by
  obtain ⟨x, t, hx, hs⟩ := exists_splitThrough?_append body closer rest
  refine ⟨opener ++ x, t ++ rest, splitDelimited?_eq_some_iff.2 ⟨_, x, ?_, hs, rfl⟩, t, ?_⟩
  · simp only [List.append_assoc]
  · rw [List.append_assoc, hx, List.append_assoc]

theorem startsDelimited_of_splitDelimited? {x rest : List Char}
    (h : splitDelimited? opener.toList closer.toList source.toList = some (x, rest)) :
    StartsDelimited opener closer source (utf8Length x) := by
  obtain ⟨inner, y, hs, hy, rfl⟩ := splitDelimited?_eq_some_iff.1 h
  obtain ⟨body, rfl⟩ := suffix_of_splitThrough? hy
  have htext : opener.toList ++ (body ++ closer.toList) =
      (opener ++ String.ofList body ++ closer).toList := by
    simp only [String.toList_append, String.toList_ofList, List.append_assoc]
  refine ⟨String.ofList body, String.ofList rest, eq_append_iff.2 ?_, ?_⟩
  · rw [← htext, String.toList_ofList, hs, List.append_assoc, append_of_splitThrough? hy]
  · rw [htext, utf8Length_toList]

/-- A delimited text at the start is not shorter than what is cut off. -/
theorem StartsDelimited.exists_splitDelimited? (h : StartsDelimited opener closer source n) :
    ∃ x rest, splitDelimited? opener.toList closer.toList source.toList = some (x, rest) ∧
      utf8Length x ≤ n := by
  obtain ⟨body, rest, rfl, rfl⟩ := h
  obtain ⟨x, t, hx, hp⟩ :=
    exists_splitDelimited?_append opener.toList body.toList closer.toList rest.toList
  simp only [← String.toList_append] at hx hp
  refine ⟨x, t, hx, ?_⟩
  rw [← utf8Length_toList]
  exact utf8Length_mono hp

theorem exists_splitDelimited?_iff_isLeast :
    (∃ x rest, splitDelimited? opener.toList closer.toList source.toList = some (x, rest) ∧
      utf8Length x = n) ↔ IsLeast {m | StartsDelimited opener closer source m} n := by
  constructor
  · rintro ⟨x, rest, hx, rfl⟩
    refine ⟨startsDelimited_of_splitDelimited? hx, ?_⟩
    intro m hm
    obtain ⟨y, t, hy, hle⟩ := StartsDelimited.exists_splitDelimited? hm
    obtain ⟨rfl, rfl⟩ := Prod.mk.inj (Option.some.inj (hx.symm.trans hy))
    exact hle
  · rintro ⟨hn, hleast⟩
    obtain ⟨x, rest, hx, hle⟩ := StartsDelimited.exists_splitDelimited? hn
    exact ⟨x, rest, hx, le_antisymm hle (hleast (startsDelimited_of_splitDelimited? hx))⟩

theorem matchLength?_blockComment_eq_some_iff :
    (blockComment opener closer).matchLength? source = some n ↔
      IsLeast {m | StartsDelimited opener closer source m} n :=
  matchLength?_eq_some_iff.trans exists_splitDelimited?_iff_isLeast

/-- The two marks around a string that may hold quotes of its own. -/
def tripleQuotes : List String := ["\"\"\"", "'''"]

theorem mem_tripleQuotes_iff {mark : String} :
    mark ∈ tripleQuotes ↔ ∃ q, (q = '"' ∨ q = '\'') ∧ mark.toList = [q, q, q] := by
  simp only [← String.toList_inj, tripleQuotes, List.mem_cons, List.not_mem_nil, or_false,
    or_and_right, exists_or, exists_eq_left]
  exact Iff.rfl

theorem split?_tripleQuotedString_eq_some_iff {s x rest : List Char} :
    tripleQuotedString.split? s = some (x, rest) ↔
      ∃ mark ∈ tripleQuotes, splitDelimited? mark.toList mark.toList s = some (x, rest) := by
  refine (@splitTriple?_eq_some_iff .python s x rest).trans ?_
  constructor
  · rintro ⟨-, q, hq, h⟩
    refine ⟨String.ofList [q, q, q], mem_tripleQuotes_iff.2 ⟨q, hq, ?_⟩, ?_⟩
    · rw [String.toList_ofList]
    · rwa [String.toList_ofList]
  · rintro ⟨mark, hmark, h⟩
    obtain ⟨q, hq, he⟩ := mem_tripleQuotes_iff.1 hmark
    exact ⟨rfl, q, hq, he ▸ h⟩

theorem matchLength?_tripleQuotedString_eq_some_iff :
    tripleQuotedString.matchLength? source = some n ↔
      ∃ mark ∈ tripleQuotes, IsLeast {m | StartsDelimited mark mark source m} n := by
  simp only [matchLength?_eq_some_iff, split?_tripleQuotedString_eq_some_iff,
    ← exists_splitDelimited?_iff_isLeast]
  constructor
  · rintro ⟨x, rest, ⟨mark, hmark, h⟩, hn⟩
    exact ⟨mark, hmark, x, rest, h, hn⟩
  · rintro ⟨mark, hmark, x, rest, h, hn⟩
    exact ⟨x, rest, ⟨mark, hmark, h⟩, hn⟩

theorem StartsDelimited.isPrefix (h : StartsDelimited opener closer source n) :
    opener.toList <+: source.toList := by
  obtain ⟨body, rest, rfl, -⟩ := h
  simp only [String.toList_append, List.append_assoc]
  exact List.prefix_append _ _

/-- A delimited text matches with the least length of an opener, a body and a closer at the start of
the source. For a string between triple quotes both are the same mark, one of two, and no source
starts with texts of both kinds. -/
theorem matchLength?_delimited (source : String) :
    (∀ opener closer n, (blockComment opener closer).matchLength? source = some n ↔
      IsLeast {m | StartsDelimited opener closer source m} n) ∧
    (∀ n, tripleQuotedString.matchLength? source = some n ↔
      ∃ mark ∈ tripleQuotes, IsLeast {m | StartsDelimited mark mark source m} n) ∧
    ¬((∃ m, StartsDelimited "\"\"\"" "\"\"\"" source m) ∧
      ∃ m, StartsDelimited "'''" "'''" source m) := by
  refine ⟨fun opener closer n => matchLength?_blockComment_eq_some_iff,
    fun n => matchLength?_tripleQuotedString_eq_some_iff, ?_⟩
  rintro ⟨⟨m, hm⟩, k, hk⟩
  obtain ⟨s, hs⟩ := hm.isPrefix
  obtain ⟨t, ht⟩ := hk.isPrefix
  have hhead := congrArg List.head? (hs.trans ht.symm)
  exact absurd hhead (by simp)

end SourceLens.Pattern
