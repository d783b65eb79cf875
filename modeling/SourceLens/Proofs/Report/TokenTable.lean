import SourceLens.Proofs.Lexeme.Stray
import SourceLens.Proofs.Text.Parts
import SourceLens.Proofs.Text.Quoted
import SourceLens.Proofs.TokenStream.Stream
import SourceLens.Report
import Mathlib.Data.List.Basic

/-! # The token table keeps the tokens

Each token has one line of the table. Where no token is a string, a value that starts with a quote
is written with escapes or is that quote alone, so the lines determine the tokens and, if these are
the tokens of a text, the text. -/
namespace SourceLens

open Text Pattern

variable {language : Language} {rest : List Char} {t u : Token} {ts us : List Token}

/-! ## The values -/

theorem Token.isControl_of_mem_displayValue {c : Char} (h : c ∈ t.displayValue.toList) :
    isControl c = false := by
  rw [displayValue] at h
  split at h
  · exact isControl_of_mem_quoted h
  · next hraw =>
    rw [not_or, List.any_eq_true] at hraw
    rw [← Bool.not_eq_true]
    exact fun hc => hraw.2 ⟨c, h, hc⟩

/-- A text that looks like a quoted one is a quote alone. -/
def Token.Unquoted (t : Token) : Prop := t.first? = some '"' → t.text = "\""

theorem Token.Unquoted.ne_quoted (h : t.Unquoted) (s : String) : t.text ≠ quoted s := by
  intro hq
  have hfirst : t.first? = some '"' := by
    rw [first?, hq, quoted, String.toList_ofList]
    rfl
  have hlength := congrArg String.length (hq.symm.trans (h hfirst))
  rw [quoted, String.length_ofList, List.length_append, List.length_cons] at hlength
  change _ + 1 + 1 = 1 at hlength
  omega

/-- The kind and the value give the text. -/
theorem Token.eq_of_displayValue_eq (ht : t.Unquoted) (hu : u.Unquoted) (hk : t.kind = u.kind)
    (h : t.displayValue = u.displayValue) : t = u := by
  have htext : t.text = u.text := by
    rw [displayValue, displayValue] at h
    split at h <;> split at h
    · exact quoted_injective h
    · exact absurd h.symm (hu.ne_quoted _)
    · exact absurd h (ht.ne_quoted _)
    · exact h
  cases t
  cases u
  rw [Token.mk.injEq]
  exact ⟨hk, htext⟩

/-- A token that begins with a quote and is no string is that quote. -/
theorem Token.Stands.unquoted (h : t.Stands language rest) (hk : t.kind ≠ .string) :
    t.Unquoted := by
  intro hq
  obtain ⟨s, hs⟩ := exists_cons_of_first? hq
  have ht := h.nextToken?
  rw [hs, List.cons_append] at ht
  cases hsplit : (splitTriple? language ('"' :: (s ++ rest))).or
      (splitQuoted? ('"' :: (s ++ rest))) with
  | none =>
    obtain ⟨-, hquoted⟩ := Option.or_eq_none_iff.1 hsplit
    have hclose : closeQuote? '"' (s ++ rest) = none :=
      splitQuoted?_eq_none_iff.1 hquoted '"' _ rfl (.inl rfl)
    rw [(Stray.of_closeQuote? (.inl rfl) hclose).nextToken?] at ht
    have htoken := (Prod.mk.inj (Option.some.inj ht)).1
    rw [← htoken]
    rfl
  | some split =>
    obtain ⟨x, r⟩ := split
    rw [nextToken?_of_lexeme? (lexeme?_of_quote (.inl rfl) hsplit)] at ht
    have htoken := (Prod.mk.inj (Option.some.inj ht)).1
    rw [← htoken] at hk
    exact absurd rfl hk

theorem unquoted_of_mem_tokenize {source : String}
    (h : ∀ t ∈ tokenize source language, t.kind ≠ .string) (ht : t ∈ tokenize source language) :
    t.Unquoted := by
  obtain ⟨us, vs, htokens⟩ := List.append_of_mem ht
  have hs : IsStream language (us ++ t :: vs) := htokens ▸ isStream_tokenize source language
  exact hs.of_append.1.unquoted (h t ht)

/-! ## The rows -/

namespace Report

/-- The label of a kind with spaces up to ten columns. -/
def kindColumn (kind : TokenKind) : String := kind.label ++ spaces (10 - kind.label.length)

/-- A row but for its end. -/
def rowFront (t : Token) : String := kindColumn t.kind ++ "  " ++ t.displayValue

theorem tokenRow_eq (t : Token) : tokenRow t = rowFront t ++ "\n" := by
  have hwidth : kindWidth = 10 := by decide
  rw [tokenRow, rowFront, kindColumn, padRight, hwidth]

theorem length_kindColumn (kind : TokenKind) : (kindColumn kind).length = 10 := by
  cases kind <;> decide

theorem takeWhile_kindColumn (kind : TokenKind) :
    (kindColumn kind ++ "  ").toList.takeWhile (· != ' ') = kind.label.toList := by
  cases kind <;> decide

theorem lineFeed_notMem_rowFront (t : Token) : '\n' ∉ (rowFront t).toList := by
  have hkind : '\n' ∉ (kindColumn t.kind ++ "  ").toList := by
    cases t.kind <;> decide
  rw [rowFront, String.toList_append, List.mem_append, not_or]
  refine ⟨hkind, fun h => ?_⟩
  exact absurd (Token.isControl_of_mem_displayValue h) (by decide)

/-- A row has the kind and the value of its token. -/
theorem of_rowFront_eq (h : (rowFront t).toList = (rowFront u).toList) :
    t.kind = u.kind ∧ t.displayValue = u.displayValue := by
  have hlength : (kindColumn t.kind ++ "  ").toList.length =
      (kindColumn u.kind ++ "  ").toList.length := by
    rw [String.length_toList, String.length_toList, String.length_append, String.length_append,
      length_kindColumn, length_kindColumn]
  have h : (kindColumn t.kind ++ "  ").toList ++ t.displayValue.toList =
      (kindColumn u.kind ++ "  ").toList ++ u.displayValue.toList := by
    rw [← String.toList_append, ← String.toList_append]
    exact h
  obtain ⟨hkind, hvalue⟩ := List.append_inj h hlength
  refine ⟨TokenKind.label_injective ?_, String.toList_inj.1 hvalue⟩
  rw [← String.toList_inj, ← takeWhile_kindColumn, hkind, takeWhile_kindColumn]

/-- The text of the table is its rows, each with its end. -/
theorem tokenTable_eq (ts : List Token) : (tokenTable ts).toList =
    (ts.map fun t => (rowFront t).toList).flatMap (· ++ ['\n']) := by
  simp [tokenTable, tokenRow_eq, String.toList_join, List.flatMap_map]

/-- The table determines its tokens. -/
theorem eq_of_tokenTable_eq (hts : ∀ t ∈ ts, t.Unquoted) (hus : ∀ u ∈ us, u.Unquoted)
    (h : tokenTable ts = tokenTable us) : ts = us := by
  have hfeed : ∀ ts : List Token, ∀ row ∈ ts.map (fun t => (rowFront t).toList), '\n' ∉ row := by
    intro ts
    rw [List.forall_mem_map]
    exact fun t _ => lineFeed_notMem_rowFront t
  have hrows : ts.map (fun t => (rowFront t).toList) = us.map fun u => (rowFront u).toList := by
    apply rows_injective (hfeed ts) (hfeed us)
    rw [← tokenTable_eq, h, tokenTable_eq]
  clear h
  induction ts generalizing us with
  | nil => exact (List.map_eq_nil_iff.1 hrows.symm).symm
  | cons t ts ih =>
    cases us with
    | nil => cases hrows
    | cons u us =>
      obtain ⟨hrow, hrows⟩ := List.cons.inj hrows
      obtain ⟨hkind, hvalue⟩ := of_rowFront_eq hrow
      rw [List.forall_mem_cons] at hts hus
      rw [Token.eq_of_displayValue_eq hts.1 hus.1 hkind hvalue, ih hts.2 hus.2 hrows]

/-- Every token has one row, with its kind in ten columns and its value. No value holds a control
character, and no row a line feed but at its end. Two texts whose tokens are no strings have one
table only if they are the same text. -/
theorem tokenTable_keeps_tokens :
    (∀ tokens : List Token, (∀ t ∈ tokens, ∀ c ∈ t.displayValue.toList, isControl c = false) ∧
      tokenTable tokens = String.join (tokens.map fun t =>
        kindColumn t.kind ++ "  " ++ t.displayValue ++ "\n") ∧
      ∀ t ∈ tokens, (kindColumn t.kind).length = 10 ∧
        '\n' ∉ (kindColumn t.kind ++ "  " ++ t.displayValue).toList) ∧
      ∀ source source' language language',
        (∀ t ∈ tokenize source language, t.kind ≠ .string) →
        (∀ t ∈ tokenize source' language', t.kind ≠ .string) →
        tokenTable (tokenize source language) = tokenTable (tokenize source' language') →
        tokenize source language = tokenize source' language' ∧ source = source' := by
  constructor
  · intro tokens
    refine ⟨fun t _ c => t.isControl_of_mem_displayValue, ?_, ?_⟩
    · rw [tokenTable, List.map_congr_left fun t _ => tokenRow_eq t]
      rfl
    · exact fun t _ => ⟨length_kindColumn t.kind, lineFeed_notMem_rowFront t⟩
  · intro source source' language language' h h' htable
    have htokens : tokenize source language = tokenize source' language' :=
      eq_of_tokenTable_eq (fun t => unquoted_of_mem_tokenize h) (fun t => unquoted_of_mem_tokenize h')
        htable
    refine ⟨htokens, ?_⟩
    calc source = spell (tokenize source language) := (spell_tokenize source language).symm
      _ = spell (tokenize source' language') := by rw [htokens]
      _ = source' := spell_tokenize source' language'

theorem tokenTable_keeps_tokens_both_languages :
    let source := "f\t= /\x01 1.5\u00a0\\\x85"
    (∀ t ∈ tokenize source .cLike, t.kind ≠ .string) ∧
      (∀ t ∈ tokenize source .python, t.kind ≠ .string) ∧
      tokenTable (tokenize source .cLike) = tokenTable (tokenize source .python) ∧
      tokenize source .cLike = tokenize source .python ∧ source = source := by
  intro source
  have htokens : tokenize source .cLike = tokenize source .python := by decide +kernel
  have h : ∀ t ∈ tokenize source .cLike, t.kind ≠ .string := by decide +kernel
  have h' : ∀ t ∈ tokenize source .python, t.kind ≠ .string := htokens ▸ h
  have htable : tokenTable (tokenize source .cLike) = tokenTable (tokenize source .python) := by
    rw [htokens]
  exact ⟨h, h', htable, tokenTable_keeps_tokens.2 source source .cLike .python h h' htable⟩

end Report

end SourceLens
