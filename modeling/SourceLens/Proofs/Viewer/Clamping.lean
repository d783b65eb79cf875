import SourceLens.Proofs.Viewer.Scrolling

/-! # Where a drawing leaves the offsets

A drawing moves each offset to the nearest one that keeps the last page full. Of an empty text the
panes of the source and of the tokens show a remark, and a drawing passes over their offsets; all
the same it shows what it would show if they had been moved. -/
namespace SourceLens

namespace Pane

variable {focused : Bool} {area : Area} {x y : Nat} {title : String}

/-! ## What an offset has to do with a drawing -/

theorem SourceText.draw_congr {analysis : Analysis}
    (h : analysis.tokens ≠ [] → settle analysis area x = settle analysis area y) :
    draw analysis title focused x area = draw analysis title focused y area := by
  by_cases htokens : analysis.tokens = []
  · simp only [draw, htokens, List.isEmpty_nil, if_true]
  · simp only [draw, numberedPage, h htokens]

theorem TokenTable.draw_congr {tokens : List Token}
    (h : tokens ≠ [] → settle tokens area x = settle tokens area y) :
    draw tokens focused x area = draw tokens focused y area := by
  by_cases htokens : tokens = []
  · simp only [draw, htokens, List.isEmpty_nil, if_true]
  · simp only [draw, h htokens]

theorem NameLists.draw_congr {table : SymbolTable}
    (h : settle table area x = settle table area y) :
    draw table focused x area = draw table focused y area := by
  simp only [draw, h]

end Pane

namespace Viewer

variable {v : Viewer} {layout : Layout} {p : Focus}

/-- The offsets moved to the last full pages at most. -/
def clamped (v : Viewer) (layout : Layout) : Offsets where
  source := min v.offsets.source (v.total .source - layout.rows .source)
  tokens := min v.offsets.tokens (v.total .tokens - layout.rows .tokens)
  symbols := min v.offsets.symbols (v.total .symbols - layout.rows .symbols)

theorem get_clamped (v : Viewer) (layout : Layout) (p : Focus) :
    (v.clamped layout).get p = min (v.offsets.get p) (v.total p - layout.rows p) := by
  cases p <;> rfl

theorem settle_clamped (h : v.analysis.tokens ≠ [] ∨ p = .symbols) :
    (settle { v with offsets := v.clamped layout } layout).get p = (v.settle layout).get p := by
  have hshown : ¬(v.analysis.tokens = [] ∧ p ≠ .symbols) := by
    rwa [not_and_or, not_ne_iff]
  rw [get_settle_eq_ite, get_settle_eq_ite, if_neg hshown, if_neg hshown, get_clamped]
  exact Nat.min_eq_left (Nat.min_le_right _ _)

/-- The screen does not tell whether the offsets were moved before. -/
theorem draw_clamped (v : Viewer) (layout : Layout) :
    draw { v with offsets := v.clamped layout } layout = v.draw layout := by
  have hsource : Pane.SourceText.draw v.analysis v.title (v.focus == .source)
      (v.clamped layout).source layout.source =
        Pane.SourceText.draw v.analysis v.title (v.focus == .source) v.offsets.source
          layout.source :=
    Pane.SourceText.draw_congr fun h => settle_clamped (p := .source) (.inl h)
  have htokens : Pane.TokenTable.draw v.analysis.tokens (v.focus == .tokens)
      (v.clamped layout).tokens layout.tokens =
        Pane.TokenTable.draw v.analysis.tokens (v.focus == .tokens) v.offsets.tokens
          layout.tokens :=
    Pane.TokenTable.draw_congr fun h => settle_clamped (p := .tokens) (.inl h)
  have hsymbols : Pane.NameLists.draw v.analysis.symbols (v.focus == .symbols)
      (v.clamped layout).symbols layout.symbols =
        Pane.NameLists.draw v.analysis.symbols (v.focus == .symbols) v.offsets.symbols
          layout.symbols :=
    Pane.NameLists.draw_congr (settle_clamped (p := .symbols) (.inr rfl))
  rw [draw, draw, ← hsource, ← htokens, ← hsymbols]
  rfl

/-! ## Where the offsets are -/

theorem tokens_eq_nil_iff (h : v.analysis = analyze v.source v.language) :
    v.analysis.tokens = [] ↔ v.source = "" := by
  rw [h]
  exact tokenize_eq_nil_iff

/-- An empty text has one line and no tokens, so it has no second page. -/
theorem last_eq_zero (h : v.analysis.tokens = []) (layout : Layout) (hp : p ≠ .symbols) :
    v.last layout p = 0 := by
  have hrows := rows_pos layout p
  have htotal : v.total p ≤ 1 := by
    cases p with
    | source =>
      rw [total, h]
      exact Pane.SourceText.length_highlight_le [] v.analysis.symbols
    | tokens =>
      rw [total, h]
      exact Nat.zero_le 1
    | symbols => exact absurd rfl hp
  rw [last]
  omega

theorem get_settle_eq_ite_last (h : v.analysis = analyze v.source v.language) (layout : Layout)
    (p : Focus) : ((v.settle layout).get p : Int) =
      if v.source = "" ∧ p ≠ .symbols then (v.offsets.get p : Int)
      else min (v.offsets.get p : Int) (v.last layout p) := by
  rw [get_settle_eq_ite, last]
  simp only [tokens_eq_nil_iff h]
  split <;> omega

/-- Where the offsets are after a drawing, whatever was done to the viewer before. Each is the
nearest one that keeps the last page full, but for an empty text those of the source and of the
tokens, of which nothing can be scrolled, stay what they were. These are the only ones that can lie
beyond their pages, and no screen tells: what is drawn is what would be drawn from the nearest
offsets. -/
theorem render_clamps (text : String) (origin : Origin) (language : Language) (es : List Event)
    (width height : Nat) :
    let v := (start text origin language).run es
    let layout := Layout.of ⟨0, 0, width, height⟩
    let w := (v.render width height).1
    (∀ p, (w.offsets.get p : Int) = if v.source = "" ∧ p ≠ .symbols then (v.offsets.get p : Int)
      else min (v.offsets.get p : Int) (w.last layout p)) ∧
      (∀ p, (w.offsets.get p : Int) ≤ w.last layout p ↔
        v.source ≠ "" ∨ p = .symbols ∨ v.offsets.get p = 0) ∧
      (v.render width height).2 =
        (render { v with offsets := v.clamped layout } width height).2 := by
  intro v layout w
  have hanalysis : v.analysis = analyze v.source v.language :=
    (reached_run text origin language es).analysis_eq
  have hget := get_settle_eq_ite_last hanalysis layout
  refine ⟨hget, fun p => ?_, ?_⟩
  · rw [show (w.offsets.get p : Int) = _ from hget p]
    split
    · next h =>
      have hlast : w.last layout p = 0 :=
        last_eq_zero ((tokens_eq_nil_iff hanalysis).2 h.1) layout h.2
      rw [hlast]
      simp [h]
    · next h =>
      rw [not_and_or, not_ne_iff] at h
      exact iff_of_true (min_le_right _ _) (h.imp_right .inl)
  · exact congrArg (Screen.blank width height).paint (draw_clamped v layout).symm

theorem render_passes_over_empty_source :
    let v := (start "" (.file "a.c") .cLike).run [.key .down, .key .tab, .key .down]
    let layout := Layout.of ⟨0, 0, 80, 24⟩
    let w := (v.render 80 24).1
    ∀ p ∈ [Focus.source, .tokens], w.offsets.get p = 1 ∧ w.last layout p = 0 ∧
      ¬(w.offsets.get p : Int) ≤ w.last layout p := by
  decide +kernel

end Viewer

end SourceLens
