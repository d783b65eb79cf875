import SourceLens.Proofs.Pane.Total
import SourceLens.Proofs.Symbol.Search
import SourceLens.Proofs.Text.Parts
import Mathlib.Data.List.Infix

/-! # The source pane shows the source

However a text is cut into tokens, the lines of the pane are the lines of the text, with spaces for
tabs. Carriage returns are kept inside a line and left out at the end of a token's part of it, so
lines are compared without them. Each character shown has the style of the token that it is from. -/
namespace SourceLens

open Text

/-- The text of a line. -/
def Line.text (line : Line) : List Char := line.flatMap fun span => span.text.toList

/-- A text without its carriage returns. -/
def withoutReturns (s : List Char) : List Char := s.filter fun c => !(c == '\r')

/-- The characters of a span with their style, carriage returns left out. -/
def Span.characters (span : Span) : List (Char × Style) :=
  (withoutReturns span.text.toList).map fun c => (c, span.style)

/-- Every run of carriage returns ends with a line feed behind it. -/
def ReturnsEndLines (s : List Char) : Prop :=
  ∀ rest ∈ s.tails, rest.head? = some '\r' → (rest.dropWhile (· == '\r')).head? = some '\n'

instance (s : List Char) : Decidable (ReturnsEndLines s) :=
  inferInstanceAs (Decidable (∀ rest ∈ s.tails, _))

namespace Pane.SourceText

variable {table : SymbolTable} {style : Style} {segment s : List Char} {span : Span} {line : Line}
  {lines : List Line} {tokens : List Token} {pieces : List Piece} {t : Token}

/-- A text with four spaces for each tab and without carriage returns. -/
def shown (s : List Char) : List Char :=
  s.flatMap fun c => if c = '\r' then [] else if c = '\t' then [' ', ' ', ' ', ' '] else [c]

/-- What is shown of each line of a text; nothing behind the last line feed is no line. -/
def shownLines (s : List Char) : List (List Char) :=
  let lines := (s.splitOn '\n').map shown
  if '\n' ∈ s ∧ lines.getLast? = some [] then lines.dropLast else lines

/-! ## Characters -/

theorem expandTabs_append (s x : List Char) :
    expandTabs (s ++ x) = expandTabs s ++ expandTabs x :=
  List.flatMap_append

theorem withoutReturns_append (s x : List Char) :
    withoutReturns (s ++ x) = withoutReturns s ++ withoutReturns x :=
  List.filter_append s x

theorem shown_append (s x : List Char) : shown (s ++ x) = shown s ++ shown x :=
  List.flatMap_append

theorem shown_singleton (c : Char) : shown [c] =
    if c = '\r' then [] else if c = '\t' then [' ', ' ', ' ', ' '] else [c] :=
  List.flatMap_singleton _ c

theorem shown_eq_flatMap (s : List Char) : shown s = s.flatMap fun c => shown [c] := by
  simp only [shown_singleton]
  rfl

theorem notMem_shown {c d : Char} (hd : d ≠ ' ') (h : c ≠ d) : d ∉ shown [c] := by
  rw [shown_singleton]
  split
  · exact List.not_mem_nil
  · split
    · simp [hd]
    · simpa using h.symm

/-- Lines can be cut before their characters are looked at, or after that. -/
theorem splitOn_shown (s : List Char) : (shown s).splitOn '\n' = (s.splitOn '\n').map shown := by
  have hfeed : ∀ c, c ≠ '\n' → '\n' ∉ shown [c] := fun c hc => notMem_shown (by decide) hc
  have h := @splitOn_flatMap '\n' (fun c => shown [c]) rfl hfeed s
  simp only [← shown_eq_flatMap] at h
  exact h

theorem expandTabs_withoutReturns (s : List Char) : expandTabs (withoutReturns s) = shown s := by
  induction s with
  | nil => rfl
  | cons c s ih =>
    have hc : expandTabs (withoutReturns [c]) = shown [c] := by
      by_cases hr : c = '\r' <;> simp [shown_singleton, withoutReturns, expandTabs, hr]
    rw [← List.singleton_append, withoutReturns_append, expandTabs_append, hc, ih, shown_append]

theorem withoutReturns_expandTabs (s : List Char) : withoutReturns (expandTabs s) = shown s := by
  induction s with
  | nil => rfl
  | cons c s ih =>
    have hc : withoutReturns (expandTabs [c]) = shown [c] := by
      by_cases ht : c = '\t'
      · subst ht
        rfl
      · by_cases hr : c = '\r' <;> simp [shown_singleton, withoutReturns, expandTabs, hr, ht]
    rw [← List.singleton_append, expandTabs_append, withoutReturns_append, hc, ih, shown_append]

/-! ## The pieces of a token -/

/-- The text of a piece without carriage returns. -/
def Piece.text : Piece → List Char
  | .span span => withoutReturns span.text.toList
  | .lineEnd => ['\n']

theorem span_mem_segmentPieces_iff : Piece.span span ∈ segmentPieces style segment ↔
    expandTabs (dropTrailing (· == '\r') segment) ≠ [] ∧
      span = ⟨String.ofList (expandTabs (dropTrailing (· == '\r') segment)), style⟩ := by
  rw [segmentPieces]
  split
  · next h => simp [h]
  · next h =>
    rw [List.mem_singleton, Piece.span.injEq]
    exact (and_iff_right h).symm

/-- What is shown of a segment does not depend on the carriage returns at its end. -/
theorem shown_dropTrailing (s : List Char) : shown (dropTrailing (· == '\r') s) = shown s := by
  have h : withoutReturns (dropTrailing (· == '\r') s) = withoutReturns s :=
    filter_dropTrailing (· == '\r') s
  rw [← expandTabs_withoutReturns, h, expandTabs_withoutReturns]

theorem flatMap_text_segmentPieces (style : Style) (segment : List Char) :
    (segmentPieces style segment).flatMap Piece.text = shown segment := by
  rw [← shown_dropTrailing, ← withoutReturns_expandTabs, segmentPieces]
  split
  · next h => rw [h]; rfl
  · next h => rw [List.flatMap_singleton, Piece.text, String.toList_ofList]

theorem flatMap_text_piecesOf (style : Style) {segments : List (List Char)} (h : segments ≠ []) :
    (piecesOf style segments).flatMap Piece.text = ['\n'].intercalate (segments.map shown) := by
  induction segments using piecesOf.induct with
  | case1 => exact absurd rfl h
  | case2 segment => simp [piecesOf, flatMap_text_segmentPieces]
  | case3 segment rest hrest ih =>
    obtain ⟨second, others, rfl⟩ := List.exists_cons_of_ne_nil hrest
    rw [piecesOf, List.flatMap_append, List.flatMap_cons, flatMap_text_segmentPieces,
      ih (List.cons_ne_nil second others)]
    · simp only [List.map_cons, List.intercalate_cons_cons, List.append_assoc]
      rfl
    · exact hrest

theorem flatMap_text_tokenPieces (table : SymbolTable) (t : Token) :
    (tokenPieces table t).flatMap Piece.text = shown t.text.toList := by
  rw [tokenPieces, flatMap_text_piecesOf _ (parts_ne_nil _ _), parts_eq_splitOn, ← splitOn_shown,
    List.intercalate_splitOn]

theorem flatMap_text_pieces (table : SymbolTable) (tokens : List Token) :
    (tokens.flatMap (tokenPieces table)).flatMap Piece.text = shown (spell tokens).toList := by
  induction tokens with
  | nil => rfl
  | cons t tokens ih =>
    rw [List.flatMap_cons, List.flatMap_append, flatMap_text_tokenPieces, ih, spell_cons,
      String.toList_append, shown_append]

theorem span_mem_piecesOf_iff {segments : List (List Char)} :
    Piece.span span ∈ piecesOf style segments ↔
      ∃ segment ∈ segments, Piece.span span ∈ segmentPieces style segment := by
  induction segments using piecesOf.induct with
  | case1 => simp [piecesOf]
  | case2 segment => simp [piecesOf]
  | case3 segment rest hrest ih =>
    rw [piecesOf]
    · simp [ih]
    · exact hrest

/-! ## Lines -/

theorem span_mem_of_mem_layLines (hspan : span ∈ line) (hline : line ∈ layLines pieces) :
    Piece.span span ∈ pieces := by
  induction pieces generalizing line with
  | nil =>
    rw [layLines, List.mem_singleton] at hline
    subst hline
    cases hspan
  | cons piece pieces ih =>
    obtain ⟨first, others, h⟩ := List.exists_cons_of_length_eq_add_one (length_layLines pieces)
    rw [h] at ih
    cases piece with
    | lineEnd =>
      rw [layLines, h, List.mem_cons] at hline
      rcases hline with rfl | hline
      · cases hspan
      · exact List.mem_cons_of_mem _ (ih hspan hline)
    | span u =>
      rw [layLines, h] at hline
      rcases List.mem_cons.1 hline with rfl | hline
      · rcases List.mem_cons.1 hspan with rfl | hspan
        · exact List.mem_cons_self
        · exact List.mem_cons_of_mem _ (ih hspan List.mem_cons_self)
      · exact List.mem_cons_of_mem _ (ih hspan (List.mem_cons_of_mem first hline))

/-- The lines laid out hold the text of the pieces, cut at its line feeds. -/
theorem map_text_layLines (h : ∀ span, Piece.span span ∈ pieces → '\n' ∉ span.text.toList) :
    (layLines pieces).map (fun line => withoutReturns line.text) =
      (pieces.flatMap Piece.text).splitOn '\n' := by
  induction pieces with
  | nil => rfl
  | cons piece pieces ih =>
    have ih := ih fun span hspan => h span (List.mem_cons_of_mem piece hspan)
    cases piece with
    | lineEnd =>
      rw [layLines, List.map_cons, ih, List.flatMap_cons, Piece.text, List.singleton_append,
        List.splitOn_cons_eq_if_modifyHead, if_pos (beq_self_eq_true '\n')]
      rfl
    | span u =>
      have hu : '\n' ∉ withoutReturns u.text.toList := fun hm =>
        h u List.mem_cons_self (List.mem_of_mem_filter hm)
      obtain ⟨first, others, hlay⟩ :=
        List.exists_cons_of_length_eq_add_one (length_layLines pieces)
      rw [List.flatMap_cons, Piece.text, splitOn_append_of_notMem hu, ← ih, layLines, hlay]
      simp only [List.map_cons, List.modifyHead_cons, Line.text, List.flatMap_cons,
        withoutReturns_append]

theorem dropBlankEnd_eq (lines : List Line) : dropBlankEnd lines =
    if 1 < lines.length ∧ lines.getLast? = some [] then lines.dropLast else lines := by
  obtain ⟨r, rfl⟩ : ∃ r : List Line, lines = r.reverse := ⟨lines.reverse, by simp⟩
  rw [dropBlankEnd, List.reverse_reverse]
  rcases r with _ | ⟨_ | ⟨span, spans⟩, _ | ⟨line, before⟩⟩
  all_goals simp

theorem mem_dropBlankEnd (h : line ∈ dropBlankEnd lines) : line ∈ lines := by
  rw [dropBlankEnd_eq] at h
  split at h
  · exact List.dropLast_subset lines h
  · exact h

/-! ## Where a span comes from -/

/-- A span shows a part of one line of a token, in the style of the token. -/
def CutFrom (table : SymbolTable) (t : Token) (span : Span) : Prop :=
  ∃ segment ∈ t.text.toList.splitOn '\n',
    Piece.span span ∈ segmentPieces (Theme.tokenStyle table t) segment

theorem span_mem_pieces_iff : Piece.span span ∈ tokens.flatMap (tokenPieces table) ↔
    ∃ t ∈ tokens, CutFrom table t span := by
  simp only [List.mem_flatMap, tokenPieces, parts_eq_splitOn, span_mem_piecesOf_iff, CutFrom]

theorem exists_cutFrom (hline : line ∈ highlight tokens table) (hspan : span ∈ line) :
    ∃ t ∈ tokens, CutFrom table t span :=
  span_mem_pieces_iff.1 (span_mem_of_mem_layLines hspan (mem_dropBlankEnd hline))

theorem mem_of_mem_expandTabs {c : Char} (hc : c ≠ ' ') (h : c ∈ expandTabs s) : c ∈ s := by
  obtain ⟨d, hd, h⟩ := List.mem_flatMap.1 h
  split at h
  · simp [hc] at h
  · rwa [List.mem_singleton.1 h]

theorem shown_eq_nil_iff : shown s = [] ↔ ∀ c ∈ s, c = '\r' := by
  rw [shown_eq_flatMap, List.flatMap_eq_nil_iff]
  apply forall₂_congr
  intro c _
  rw [shown_singleton]
  split_ifs with hr ht
  · exact iff_of_true rfl hr
  · simp [hr]
  · simp [hr]

namespace CutFrom

theorem style_eq (h : CutFrom table t span) : span.style = Theme.tokenStyle table t := by
  obtain ⟨segment, -, h⟩ := h
  obtain ⟨-, rfl⟩ := span_mem_segmentPieces_iff.1 h
  rfl

/-- Something of a span is left without its carriage returns. -/
theorem withoutReturns_ne_nil (h : CutFrom table t span) :
    withoutReturns span.text.toList ≠ [] := by
  obtain ⟨segment, -, h⟩ := h
  obtain ⟨hne, rfl⟩ := span_mem_segmentPieces_iff.1 h
  rw [String.toList_ofList, withoutReturns_expandTabs, shown_dropTrailing]
  intro hnil
  apply hne
  have hdrop : segment.rdropWhile (· == '\r') = [] := by
    rw [List.rdropWhile_eq_nil_iff]
    intro c hc
    exact beq_iff_eq.2 (shown_eq_nil_iff.1 hnil c hc)
  rw [dropTrailing, ← List.rdropWhile, hdrop]
  rfl

theorem text_ne_empty (h : CutFrom table t span) : span.text ≠ "" := by
  intro he
  apply h.withoutReturns_ne_nil
  rw [he]
  rfl

theorem lineFeed_notMem (h : CutFrom table t span) : '\n' ∉ span.text.toList := by
  obtain ⟨segment, hsegment, h⟩ := h
  obtain ⟨-, rfl⟩ := span_mem_segmentPieces_iff.1 h
  rw [String.toList_ofList]
  intro hm
  have hdrop : '\n' ∈ segment.rdropWhile (· == '\r') := mem_of_mem_expandTabs (by decide) hm
  exact notMem_of_mem_splitOn hsegment ((List.rdropWhile_prefix _ segment).subset hdrop)

theorem isInfix (h : CutFrom table t span) :
    span.text.toList <:+: expandTabs t.text.toList := by
  obtain ⟨segment, hsegment, h⟩ := h
  obtain ⟨-, rfl⟩ := span_mem_segmentPieces_iff.1 h
  have hinfix : dropTrailing (· == '\r') segment <:+: t.text.toList :=
    List.IsInfix.trans (List.rdropWhile_prefix _ segment).isInfix
      (isInfix_of_mem_splitOn hsegment)
  obtain ⟨x, y, hxy⟩ := hinfix
  rw [String.toList_ofList, ← hxy, expandTabs_append, expandTabs_append]
  exact ⟨_, _, rfl⟩

/-- A carriage return inside a line is not followed by a line feed. -/
theorem return_notMem (h : CutFrom table t span) (ht : t ∈ tokens)
    (hs : ReturnsEndLines (spell tokens).toList) : '\r' ∉ span.text.toList := by
  obtain ⟨segment, hsegment, h⟩ := h
  obtain ⟨-, rfl⟩ := span_mem_segmentPieces_iff.1 h
  rw [String.toList_ofList]
  intro hm
  obtain ⟨x, y, hxy, hdrop⟩ := exists_of_mem_dropTrailing (mem_of_mem_expandTabs (by decide) hm)
  obtain ⟨u, v, huv⟩ := (isInfix_of_mem_splitOn hsegment).trans (infix_spell_of_mem ht)
  have htail : '\r' :: y ++ v ∈ (spell tokens).toList.tails := by
    rw [List.mem_tails, ← huv, hxy]
    exact ⟨u ++ x, by simp⟩
  have hfeed := hs _ htail rfl
  rw [List.dropWhile_append, if_neg (by simpa using hdrop), List.head?_append_of_ne_nil _ hdrop]
    at hfeed
  have hmem : '\n' ∈ '\r' :: y :=
    (List.dropWhile_sublist _).subset (List.mem_of_mem_head? hfeed)
  exact notMem_of_mem_splitOn hsegment (hxy ▸ List.mem_append_right x hmem)

end CutFrom

/-! ## The lines -/

theorem map_text_layLines_pieces (table : SymbolTable) (tokens : List Token) :
    (layLines (tokens.flatMap (tokenPieces table))).map (fun line => withoutReturns line.text) =
      ((spell tokens).toList.splitOn '\n').map shown := by
  have hfeed : ∀ span, Piece.span span ∈ tokens.flatMap (tokenPieces table) →
      '\n' ∉ span.text.toList := by
    intro span hspan
    obtain ⟨t, -, ht⟩ := span_mem_pieces_iff.1 hspan
    exact ht.lineFeed_notMem
  rw [map_text_layLines hfeed, flatMap_text_pieces, splitOn_shown]

/-- A line that shows nothing but carriage returns has no spans. -/
theorem withoutReturns_text_eq_nil_iff
    (h : line ∈ layLines (tokens.flatMap (tokenPieces table))) :
    withoutReturns line.text = [] ↔ line = [] := by
  cases line with
  | nil => exact iff_of_true rfl rfl
  | cons span spans =>
    refine iff_of_false ?_ (List.cons_ne_nil span spans)
    obtain ⟨t, -, ht⟩ := span_mem_pieces_iff.1 (span_mem_of_mem_layLines List.mem_cons_self h)
    rw [Line.text, List.flatMap_cons, withoutReturns_append]
    exact List.append_ne_nil_of_left_ne_nil ht.withoutReturns_ne_nil _

/-- But for carriage returns, the lines of the pane are those of the text. -/
theorem map_text_highlight (tokens : List Token) (table : SymbolTable) :
    (highlight tokens table).map (fun line => withoutReturns line.text) =
      shownLines (spell tokens).toList := by
  have hmap := map_text_layLines_pieces table tokens
  rw [highlight, dropBlankEnd_eq, shownLines, ← hmap]
  set lines := layLines (tokens.flatMap (tokenPieces table)) with hlines
  have hlength : 1 < lines.length ↔ '\n' ∈ (spell tokens).toList := by
    rw [← one_lt_length_splitOn_iff, ← List.length_map (f := shown), ← hmap, List.length_map]
  have hlast : lines.getLast? = some [] ↔
      (lines.map fun line => withoutReturns line.text).getLast? = some [] := by
    rw [List.getLast?_map, Option.map_eq_some_iff]
    constructor
    · intro h
      exact ⟨[], h, rfl⟩
    · rintro ⟨line, hline, hnil⟩
      rwa [(withoutReturns_text_eq_nil_iff (List.mem_of_getLast? hline)).1 hnil] at hline
  simp only [hlength, hlast]
  split
  · rw [List.map_dropLast]
  · rfl

theorem return_notMem_text (h : ReturnsEndLines (spell tokens).toList)
    (hline : line ∈ highlight tokens table) : '\r' ∉ line.text := by
  intro hr
  obtain ⟨span, hspan, hr⟩ := List.mem_flatMap.1 hr
  obtain ⟨t, ht, hcut⟩ := exists_cutFrom hline hspan
  exact hcut.return_notMem ht h hr

theorem withoutReturns_eq_self (h : '\r' ∉ s) : withoutReturns s = s := by
  rw [withoutReturns, List.filter_eq_self]
  intro c hc
  simpa using ne_of_mem_of_not_mem hc h

/-! ## The styles -/

/-- The characters that are shown of a piece. -/
def Piece.characters : Piece → List (Char × Style)
  | .span span => span.characters
  | .lineEnd => []

/-- The characters that are shown of a token, in its style. -/
def tokenCharacters (table : SymbolTable) (t : Token) : List (Char × Style) :=
  ((shown t.text.toList).filter fun c => !(c == '\n')).map fun c => (c, Theme.tokenStyle table t)

theorem characters_layLines (pieces : List Piece) :
    (layLines pieces).flatten.flatMap Span.characters = pieces.flatMap Piece.characters := by
  induction pieces with
  | nil => rfl
  | cons piece pieces ih =>
    rw [List.flatMap_cons, ← ih]
    cases piece with
    | lineEnd => rfl
    | span u =>
      obtain ⟨first, others, h⟩ := List.exists_cons_of_length_eq_add_one (length_layLines pieces)
      rw [layLines, h]
      rfl

theorem flatten_dropBlankEnd (lines : List Line) : (dropBlankEnd lines).flatten = lines.flatten := by
  rw [dropBlankEnd_eq]
  split
  · next h =>
    conv_rhs => rw [← List.dropLast_append_getLast? [] h.2]
    simp
  · rfl

theorem characters_piecesOf (style : Style) (segments : List (List Char)) :
    (piecesOf style segments).flatMap Piece.characters =
      (segments.map shown).flatten.map fun c => (c, style) := by
  have hsegment : ∀ segment, (segmentPieces style segment).flatMap Piece.characters =
      (shown segment).map fun c => (c, style) := by
    intro segment
    rw [← flatMap_text_segmentPieces style, segmentPieces]
    split
    · rfl
    · rw [List.flatMap_singleton, List.flatMap_singleton]
      rfl
  induction segments using piecesOf.induct with
  | case1 => rfl
  | case2 segment => simp [piecesOf, hsegment]
  | case3 segment rest hrest ih =>
    rw [piecesOf, List.flatMap_append, List.flatMap_cons, hsegment, ih, Piece.characters]
    · simp
    · exact hrest

theorem characters_tokenPieces (table : SymbolTable) (t : Token) :
    (tokenPieces table t).flatMap Piece.characters = tokenCharacters table t := by
  rw [tokenPieces, parts_eq_splitOn, characters_piecesOf, ← splitOn_shown, flatten_splitOn]
  rfl

/-- From the first line to the last, the pane shows the characters of the tokens in their styles. -/
theorem characters_highlight (tokens : List Token) (table : SymbolTable) :
    (highlight tokens table).flatten.flatMap Span.characters =
      tokens.flatMap (tokenCharacters table) := by
  rw [highlight, flatten_dropBlankEnd, characters_layLines, List.flatMap_assoc]
  simp only [characters_tokenPieces]

end Pane.SourceText

/-- In a table made of names, an identifier among the functions has the style of functions, and one
among the variables only that of variables. -/
theorem Theme.tokenStyle_ofNames (functionNames variableNames : List String) (t : Token) :
    Theme.tokenStyle (.ofNames functionNames variableNames) t =
      if t.kind = .identifier ∧ t.text ∈ functionNames then Theme.functionName
      else if t.kind = .identifier ∧ t.text ∈ variableNames then Theme.variableName
      else Theme.kindStyle t.kind := by
  simp only [Theme.tokenStyle, SymbolTable.hasFunction_ofNames, SymbolTable.hasVariable_ofNames]

namespace Pane.SourceText

/-- The pane shows the lines of the source. But for carriage returns they do not depend on how the
source is cut into tokens, and where carriage returns only stand before line feeds none is shown.
No span is empty, each is cut from a token and has its style, and so has each character. -/
theorem highlight_shows_source (tokens : List Token) (table : SymbolTable) :
    let source := (spell tokens).toList
    let lines := highlight tokens table
    lines.length = (shownLines source).length ∧
      lines.map (fun line => withoutReturns line.text) = shownLines source ∧
      (ReturnsEndLines source →
        lines.map Line.text = shownLines source ∧ ∀ line ∈ lines, '\r' ∉ line.text) ∧
      (∀ line ∈ lines, ∀ span ∈ line, span.text ≠ "" ∧ ∃ t ∈ tokens,
        span.style = Theme.tokenStyle table t ∧ span.text.toList <:+: expandTabs t.text.toList) ∧
      lines.flatten.flatMap Span.characters = tokens.flatMap (tokenCharacters table) ∧
      (∀ functionNames variableNames, table = .ofNames functionNames variableNames →
        ∀ t, Theme.tokenStyle table t =
          if t.kind = .identifier ∧ t.text ∈ functionNames then Theme.functionName
          else if t.kind = .identifier ∧ t.text ∈ variableNames then Theme.variableName
          else Theme.kindStyle t.kind) ∧
      ∀ tokens' table', spell tokens' = spell tokens →
        (highlight tokens' table').map (fun line => withoutReturns line.text) =
          lines.map fun line => withoutReturns line.text := by
  intro source lines
  have hlines : lines.map (fun line => withoutReturns line.text) = shownLines source :=
    map_text_highlight tokens table
  refine ⟨?_, hlines, ?_, ?_, characters_highlight tokens table, ?_, ?_⟩
  · rw [← hlines, List.length_map]
  · intro h
    have hreturn : ∀ line ∈ lines, '\r' ∉ line.text := fun line => return_notMem_text h
    refine ⟨?_, hreturn⟩
    rw [← hlines]
    apply List.map_congr_left
    intro line hline
    exact (withoutReturns_eq_self (hreturn line hline)).symm
  · intro line hline span hspan
    obtain ⟨t, ht, hcut⟩ := exists_cutFrom hline hspan
    exact ⟨hcut.text_ne_empty, t, ht, hcut.style_eq, hcut.isInfix⟩
  · rintro functionNames variableNames rfl
    exact Theme.tokenStyle_ofNames functionNames variableNames
  · intro tokens' table' h
    rw [map_text_highlight tokens' table', h, hlines]

theorem highlight_shows_source_split_comment :
    let tokens : List Token := [⟨.comment, "/*\t\r\n f */"⟩, ⟨.whitespace, "\r"⟩,
      ⟨.whitespace, "\n"⟩, ⟨.identifier, "f"⟩, ⟨.string, ""⟩, ⟨.operator, "("⟩,
      ⟨.whitespace, "\r\r\n"⟩]
    let tokens' : List Token := [⟨.unknown, spell tokens⟩]
    let table := SymbolTable.ofNames ["f"] ["f", "n"]
    let source := (spell tokens).toList
    let lines := highlight tokens table
    (ReturnsEndLines source ∧ spell tokens' = spell tokens) ∧
      lines.map Line.text = [['/', '*', ' ', ' ', ' ', ' '], [' ', 'f', ' ', '*', '/'], ['f', '(']] ∧
      (∀ line ∈ lines, '\r' ∉ line.text) ∧
      Theme.tokenStyle table ⟨.identifier, "f"⟩ = Theme.functionName ∧
      (highlight tokens' table).map (fun line => withoutReturns line.text) =
        lines.map fun line => withoutReturns line.text := by
  intro tokens tokens' table source lines
  have hreturns : ReturnsEndLines source := by decide +kernel
  have hspell : spell tokens' = spell tokens := spell_singleton _
  have hshown : shownLines source =
      [['/', '*', ' ', ' ', ' ', ' '], [' ', 'f', ' ', '*', '/'], ['f', '(']] := by
    decide +kernel
  obtain ⟨-, -, htexts, -, -, hstyle, hcut⟩ := highlight_shows_source tokens table
  refine ⟨⟨hreturns, hspell⟩, ?_, (htexts hreturns).2, ?_, hcut tokens' table hspell⟩
  · rw [← hshown]
    exact (htexts hreturns).1
  · rw [hstyle ["f"] ["f", "n"] rfl ⟨.identifier, "f"⟩]
    rfl

end Pane.SourceText

end SourceLens
