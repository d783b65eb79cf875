import SourceLens.Analysis
import SourceLens.Proofs.Symbol.Extension
import SourceLens.Proofs.TokenStream.Stream

/-! # Names are identifiers

Every rule by which a name is seen takes it from an identifier. In the tokens of a text identifiers
have the shape of names and are not reserved, so a table of an analysis holds nothing else. -/
namespace SourceLens

open Pattern

variable {passed : Token → Prop} {language : Language} {t : Token} {ts : List Token}
  {name source : String} {rest : List Char} {i k d : Nat}

/-- An ASCII letter or underscore, then ASCII letters, digits or underscores. -/
def IsName (s : String) : Prop :=
  ∃ c t, s.toList = c :: t ∧ isWordStart c = true ∧ ∀ d ∈ t, isWordChar d = true

/-- The functions, then the variables. -/
def SymbolTable.names (table : SymbolTable) : List String :=
  table.functionNames.toList ++ table.variableNames.toList

/-! ## From a table to the tokens -/

theorem FirstBehind.mem (h : FirstBehind passed ts i k t) : t ∈ ts := List.mem_of_getElem? h.token

theorem FunctionAt.mem (h : FunctionAt language ts i name) : ⟨.identifier, name⟩ ∈ ts := by
  cases language with
  | cLike => exact List.mem_of_getElem? h.1
  | python =>
    obtain ⟨-, k, hk⟩ := h
    exact hk.mem

theorem DeclaredAt.mem (h : DeclaredAt language ts i d name) : ⟨.identifier, name⟩ ∈ ts := by
  cases language with
  | cLike => exact h.2.1.mem
  | python => exact h.elim

theorem UsedAt.mem (h : UsedAt language ts i name) : ⟨.identifier, name⟩ ∈ ts :=
  List.mem_of_getElem? h.1

theorem SymbolTable.identifier_mem_of_mem_names (h : name ∈ (ofTokens ts language).names) :
    ⟨.identifier, name⟩ ∈ ts := by
  rw [names, List.mem_append, Array.mem_toList_iff, Array.mem_toList_iff] at h
  rcases h with h | h
  · obtain ⟨i, hi⟩ := mem_functionNames_iff_exists_at.1 h
    exact hi.mem
  · rcases mem_variableNames_iff_exists_at.1 h with ⟨i, d, hd⟩ | ⟨i, hi, -⟩
    · exact hd.mem
    · exact hi.mem

/-! ## From the tokens to the text -/

theorem Token.Stands.isName (h : t.Stands language rest) (hk : t.kind = .identifier) :
    IsName t.text ∧ t.text ∉ language.keywords := by
  obtain ⟨form, hform, hfits, -⟩ := h
  have hword : form ∈ Form.ofKind .identifier := Form.mem_ofKind (hk.symm.trans hform)
  obtain rfl : form = .word := List.mem_singleton.1 hword
  refine ⟨hfits, fun hkeyword => ?_⟩
  rw [hk, Form.kind, Language.isKeyword, List.contains_iff_mem.2 hkeyword] at hform
  cases hform

theorem isName_of_mem_tokenize (h : ⟨.identifier, name⟩ ∈ tokenize source language) :
    IsName name ∧ name ∉ language.keywords := by
  obtain ⟨us, vs, htokens⟩ := List.append_of_mem h
  have hs : IsStream language (us ++ ⟨.identifier, name⟩ :: vs) :=
    htokens ▸ isStream_tokenize source language
  exact hs.of_append.1.isName rfl

theorem identifier_mem_of_mem_names (h : name ∈ (analyze source language).symbols.names) :
    ⟨.identifier, name⟩ ∈ (analyze source language).tokens :=
  SymbolTable.identifier_mem_of_mem_names h

theorem isName_of_mem_names (h : name ∈ (analyze source language).symbols.names) :
    IsName name ∧ name ∉ language.keywords :=
  isName_of_mem_tokenize (identifier_mem_of_mem_names h)

end SourceLens
