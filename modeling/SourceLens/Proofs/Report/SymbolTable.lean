import SourceLens.Proofs.Symbol.Names
import SourceLens.Proofs.Text.Parts
import SourceLens.Report

/-! # The symbol section determines its table

Names are printed as they are, a row each, below two headings. No name of an analysis holds a line
feed or reads like the remark that there are none, and every row but a heading is indented, so the
rows tell the two lists apart and give them back. -/
namespace SourceLens

open Text Pattern

/-- A text that keeps to its row and is not taken for the remark that there are no names. -/
def Listable (name : String) : Prop := '\n' ∉ name.toList ∧ name ≠ "(none)"

theorem IsName.listable {name : String} (h : IsName name) : Listable name := by
  obtain ⟨c, t, hname, hc, ht⟩ := h
  constructor
  · rw [hname, List.mem_cons, not_or]
    constructor
    · rintro rfl
      exact absurd hc (by decide)
    · intro hfeed
      exact absurd (ht '\n' hfeed) (by decide)
  · rintro rfl
    obtain ⟨rfl, -⟩ := List.cons.inj hname
    exact absurd hc (by decide)

namespace Report

variable {names names' : List String} {a b table : SymbolTable}

/-! ## The rows of a list -/

/-- What the rows below a heading say. -/
def entries (names : List String) : List String := if names = [] then ["(none)"] else names

/-- The rows below a heading, without their ends. -/
def nameRows (names : List String) : List (List Char) :=
  (entries names).map fun entry => "  ".toList ++ entry.toList

theorem nameList_eq (heading : String) (names : List String) : (nameList heading names).toList =
    ((heading ++ ":").toList :: nameRows names).flatMap (· ++ ['\n']) := by
  cases names with
  | nil => simp [nameList, nameRows, entries]
  | cons name names => simp [nameList, nameRows, entries, String.toList_join, List.flatMap_map]

theorem lineFeed_notMem_nameRows (h : ∀ name ∈ names, Listable name) :
    ∀ row ∈ nameRows names, '\n' ∉ row := by
  have hentries : ∀ entry ∈ entries names, '\n' ∉ entry.toList := by
    unfold entries
    split
    · rw [List.forall_mem_singleton]
      decide
    · exact fun entry hentry => (h entry hentry).1
  rw [nameRows, List.forall_mem_map]
  intro entry hentry
  rw [List.mem_append, not_or]
  exact ⟨by decide, hentries entry hentry⟩

theorem ne_heading_of_mem_nameRows {row : List Char} (h : row ∈ nameRows names) :
    row ≠ "Variables:".toList := by
  obtain ⟨entry, -, rfl⟩ := List.mem_map.1 h
  intro hrow
  exact absurd (List.cons.inj hrow).1 (by decide)

theorem entries_injective (h : ∀ name ∈ names, Listable name) (h' : ∀ name ∈ names', Listable name)
    (hentries : entries names = entries names') : names = names' := by
  have hne : ∀ xs : List String, (∀ name ∈ xs, Listable name) → xs ≠ ["(none)"] := by
    rintro xs hxs rfl
    exact (hxs "(none)" (List.mem_singleton_self _)).2 rfl
  unfold entries at hentries
  split at hentries <;> split at hentries
  · next hn hn' => rw [hn, hn']
  · exact absurd hentries.symm (hne names' h')
  · exact absurd hentries (hne names h)
  · exact hentries

theorem nameRows_injective (h : ∀ name ∈ names, Listable name) (h' : ∀ name ∈ names', Listable name)
    (hrows : nameRows names = nameRows names') : names = names' := by
  apply entries_injective h h'
  refine List.map_injective_iff.2 ?_ hrows
  intro entry entry' hentry
  exact String.toList_inj.1 (List.append_cancel_left hentry)

/-! ## The rows of a table -/

/-- The rows of both lists, without their ends. -/
def tableRows (table : SymbolTable) : List (List Char) :=
  "Functions:".toList :: nameRows table.functionNames.toList ++
    "Variables:".toList :: nameRows table.variableNames.toList

theorem symbolTable_eq (table : SymbolTable) :
    (symbolTable table).toList = (tableRows table).flatMap (· ++ ['\n']) := by
  rw [symbolTable, String.toList_append, nameList_eq, nameList_eq, ← List.flatMap_append]
  rfl

theorem lineFeed_notMem_tableRows (h : ∀ name ∈ table.names, Listable name) :
    ∀ row ∈ tableRows table, '\n' ∉ row := by
  obtain ⟨hf, hv⟩ := List.forall_mem_append.1 h
  rw [tableRows, List.forall_mem_append, List.forall_mem_cons, List.forall_mem_cons]
  exact ⟨⟨by decide, lineFeed_notMem_nameRows hf⟩, by decide, lineFeed_notMem_nameRows hv⟩

theorem tableRows_injective (ha : ∀ name ∈ a.names, Listable name)
    (hb : ∀ name ∈ b.names, Listable name) (h : tableRows a = tableRows b) : a = b := by
  obtain ⟨haf, hav⟩ := List.forall_mem_append.1 ha
  obtain ⟨hbf, hbv⟩ := List.forall_mem_append.1 hb
  have hheading : ∀ names, "Variables:".toList ∉ nameRows names :=
    fun names hmem => ne_heading_of_mem_nameRows hmem rfl
  rw [tableRows, tableRows, List.cons_append, List.cons_append, List.cons.injEq,
    List.append_cons_inj_of_notMem (hheading _) (hheading _)] at h
  obtain ⟨-, hf, -, hv⟩ := h
  cases a
  cases b
  rw [SymbolTable.mk.injEq]
  exact ⟨Array.toList_inj.1 (nameRows_injective haf hbf hf),
    Array.toList_inj.1 (nameRows_injective hav hbv hv)⟩

/-- A table of listable names is determined by its text. -/
theorem symbolTable_injective (ha : ∀ name ∈ a.names, Listable name)
    (hb : ∀ name ∈ b.names, Listable name) (h : symbolTable a = symbolTable b) : a = b := by
  apply tableRows_injective ha hb
  apply rows_injective (lineFeed_notMem_tableRows ha) (lineFeed_notMem_tableRows hb)
  rw [← symbolTable_eq, h, symbolTable_eq]

/-- What the names of an analysis are, and that the symbol section tells which there are. A name is
the text of an identifier among the tokens, has the shape of one and is not reserved; and whatever
the sources and the languages, two analyses with one symbol section have one table. -/
theorem symbolTable_keeps_names :
    (∀ source language, ∀ name ∈ (analyze source language).symbols.names,
      ⟨.identifier, name⟩ ∈ (analyze source language).tokens ∧ IsName name ∧
        name ∉ language.keywords) ∧
      ∀ source source' language language',
        symbolTable (analyze source language).symbols =
          symbolTable (analyze source' language').symbols →
        (analyze source language).symbols = (analyze source' language').symbols := by
  constructor
  · intro source language name h
    exact ⟨identifier_mem_of_mem_names h, isName_of_mem_names h⟩
  · intro source source' language language' h
    exact symbolTable_injective (fun name hname => (isName_of_mem_names hname).1.listable)
      (fun name hname => (isName_of_mem_names hname).1.listable) h

theorem symbolTable_keeps_names_both_languages :
    let c := analyze "int none_; f (none_)" .cLike
    let p := analyze "def f(none_ = 1): pass" .python
    "none_" ∈ c.symbols.names ∧ symbolTable c.symbols = symbolTable p.symbols ∧
      (⟨.identifier, "none_"⟩ ∈ c.tokens ∧ IsName "none_" ∧ "none_" ∉ Language.cLike.keywords) ∧
      c.symbols = p.symbols := by
  intro c p
  have hc : c.symbols = .ofNames ["f"] ["none_"] :=
    congrArg₂ SymbolTable.ofNames (by decide +kernel) (by decide +kernel)
  have hp : p.symbols = .ofNames ["f"] ["none_"] :=
    congrArg₂ SymbolTable.ofNames (by decide +kernel) (by decide +kernel)
  have hname : "none_" ∈ c.symbols.names := by
    rw [hc, SymbolTable.names, List.mem_append, Array.mem_toList_iff, Array.mem_toList_iff]
    exact .inr (mem_sortedNames.2 (List.mem_singleton_self _))
  have htable : symbolTable c.symbols = symbolTable p.symbols := by rw [hc, hp]
  obtain ⟨hnames, hinjective⟩ := symbolTable_keeps_names
  exact ⟨hname, htable, hnames _ _ _ hname, hinjective _ _ _ _ htable⟩

end Report

end SourceLens
