import SourceLens.Proofs.Pane.Total
import SourceLens.Proofs.Viewer.History
import SourceLens.Proofs.Viewer.Pages

/-! # Scrolling counts

Offsets saturate, run beyond the last page and are mended only when the viewer is drawn. Looked at
after each drawing they are plain counters that are kept within the pages, and the screen shows the
items from there on. -/
namespace SourceLens

/-- What a key makes of the counter of the pane in focus. -/
def Key.count (k : Key) (last x : Int) : Int :=
  match k with
  | .up => x - 1
  | .down => x + 1
  | .pageUp => x - 10
  | .pageDown => x + 10
  | .home => 0
  | .endKey => last
  | _ => x

/-- A viewer as it was drawn last and its screen, with a counter for each pane. -/
structure Shown where
  viewer : Viewer
  width : Nat
  height : Nat
  screen : Screen
  counter : Focus → Int

namespace Shown

def layout (s : Shown) : Viewer.Layout := .of ⟨0, 0, s.width, s.height⟩

/-- A viewer is drawn, with the counters that it should then have. -/
def draw (v : Viewer) (width height : Nat) (counter : Focus → Int) : Shown :=
  ⟨(v.render width height).1, width, height, (v.render width height).2, counter⟩

/-- A viewer is drawn for the first time. -/
def first (v : Viewer) (width height : Nat) : Shown :=
  draw v width height fun p =>
    max 0 (min (v.offsets.get p) (v.last (.of ⟨0, 0, width, height⟩) p))

/-- A key is pressed and the viewer is drawn again. -/
def next (s : Shown) (k : Key) (width height : Nat) : Shown :=
  let v := s.viewer.press k
  let last := v.last (.of ⟨0, 0, width, height⟩)
  draw v width height fun p =>
    let x :=
      if k = .char 'l' ∨ k = .char 'L' then 0
      else if p = s.viewer.focus then k.count (last p) (s.counter p)
      else s.counter p
    max 0 (min x (last p))

/-- Keys are pressed one after another; each comes with the size of the next drawing. -/
def run (s : Shown) (steps : List (Key × Nat × Nat)) : Shown :=
  steps.foldl (fun s (k, width, height) => s.next k width height) s

end Shown

/-! ## The offsets of a drawn viewer -/

namespace Offsets

theorem get_modify (o : Offsets) (f : Nat → Nat) (p q : Focus) :
    (o.modify f q).get p = if p = q then f (o.get p) else o.get p := by
  cases p <;> cases q <;> rfl

end Offsets

namespace Viewer

variable {v : Viewer} {layout : Layout} {p : Focus}

/-- A viewer that shows the analysis of a text that is neither empty nor out of range. -/
structure Legible (v : Viewer) : Prop where
  analysis_eq : v.analysis = analyze v.source v.language
  source_ne : v.source ≠ ""
  size_lt : v.source.utf8ByteSize < UInt64.size

namespace Legible

theorem tokens_eq (h : v.Legible) : v.analysis.tokens = tokenize v.source v.language := by
  rw [h.analysis_eq]
  rfl

theorem tokens_ne_nil (h : v.Legible) : v.analysis.tokens ≠ [] := by
  rw [h.tokens_eq, ne_eq, tokenize_eq_nil_iff]
  exact h.source_ne

theorem total_le (h : v.Legible) (p : Focus) : v.total p ≤ v.source.utf8ByteSize + 1 := by
  have hlength := Text.length_le_utf8ByteSize v.source
  have htokens := length_tokenize_le v.source v.language
  cases p with
  | source =>
    have hlines := Pane.SourceText.length_highlight_le v.analysis.tokens v.analysis.symbols
    have hspell : spell v.analysis.tokens = v.source := by rw [h.tokens_eq, spell_tokenize]
    rw [hspell] at hlines
    exact hlines.trans (Nat.succ_le_succ hlength)
  | tokens =>
    rw [total, h.tokens_eq]
    omega
  | symbols =>
    have hnames := SymbolTable.longest_ofTokens_le (tokenize v.source v.language) v.language
    have hsymbols : v.analysis.symbols =
        SymbolTable.ofTokens (tokenize v.source v.language) v.language := by
      rw [h.analysis_eq]
      rfl
    rw [← hsymbols, SymbolTable.longest] at hnames
    rw [total]
    omega

/-- The limit of the offsets lies beyond the last page. -/
theorem last_le (h : v.Legible) (layout : Layout) (p : Focus) :
    v.last layout p ≤ Offsets.limit := by
  have htotal := h.total_le p
  have hrows := rows_pos layout p
  have hsize := h.size_lt
  have hlimit : Offsets.limit + 1 = UInt64.size := rfl
  rw [last]
  omega

theorem offsets (h : v.Legible) (o : Offsets) : Legible { v with offsets := o } := { h with }

theorem obey (h : v.Legible) (c : Command) : (v.obey c).Legible := by
  cases c with
  | switchLanguage =>
    have hsample : ∀ language : Language, language.sample ≠ "" ∧
        language.sample.utf8ByteSize < UInt64.size := by
      intro language
      cases language <;> decide +kernel
    refine ⟨rfl, ?_, ?_⟩
    · simp only [Viewer.obey, switchLanguage]
      split
      · exact (hsample _).1
      · exact h.source_ne
    · simp only [Viewer.obey, switchLanguage]
      split
      · exact (hsample _).2
      · exact h.size_lt
  | quit => exact { h with }
  | focusNext => exact { h with }
  | focusPrevious => exact { h with }
  | scroll motion => exact h.offsets _
  | nothing => exact h

theorem get_render (h : v.Legible) (width height : Nat) (p : Focus) :
    (((v.render width height).1.offsets.get p : Nat) : Int) =
      max 0 (min (v.offsets.get p : Int) (v.last (.of ⟨0, 0, width, height⟩) p)) := by
  have hget := get_settle h.tokens_ne_nil (.of ⟨0, 0, width, height⟩) p
  have hrender : (v.render width height).1.offsets = v.settle (.of ⟨0, 0, width, height⟩) := rfl
  rw [hrender, hget, last]
  omega

end Legible

/-- Within the pages a key moves the offsets as it moves plain counters. -/
theorem get_press (v : Viewer) (k : Key) (p : Focus) {m : Int} (hm : 0 ≤ m)
    (hlimit : m ≤ Offsets.limit) :
    max 0 (min ((v.press k).offsets.get p : Int) m) =
      max 0 (min (if k = .char 'l' ∨ k = .char 'L' then 0
        else if p = v.focus then k.count m (v.offsets.get p) else v.offsets.get p) m) := by
  cases k with
  | char c =>
    by_cases hl : Key.char c = .char 'l' ∨ Key.char c = .char 'L'
    · rw [if_pos hl, press_eq_obey, Key.command_eq_switchLanguage_iff.2 hl]
      cases p <;> rfl
    · have hoffsets : (v.press (.char c)).offsets = v.offsets := by
        rw [Key.char.injEq, Key.char.injEq] at hl
        simp only [press, if_neg hl]
        split <;> rfl
      rw [if_neg hl, hoffsets]
      simp [Key.count]
  | up | down | pageUp | pageDown | home | endKey =>
    simp only [press, scroll, Offsets.get_modify, Key.count, Offsets.forward, pageStep,
      reduceCtorEq, or_false, if_false]
    split <;> omega
  | tab | backTab | escape | left | right | enter | backspace | function | other =>
    simp [press, Key.count]

end Viewer

namespace Shown

variable {s : Shown}

/-- The counters of a drawn viewer are its offsets, and drawing it again would change nothing. -/
structure Agrees (s : Shown) : Prop where
  legible : s.viewer.Legible
  counter_eq : ∀ p, (s.viewer.offsets.get p : Int) = s.counter p
  get_le : ∀ p, s.viewer.offsets.get p ≤ s.viewer.total p - s.layout.rows p
  render_eq : s.viewer.render s.width s.height = (s.viewer, s.screen)

theorem agrees_draw {v : Viewer} (h : v.Legible) (width height : Nat) {counter : Focus → Int}
    (hcounter : ∀ p, ((v.render width height).1.offsets.get p : Int) = counter p) :
    (draw v width height counter).Agrees := by
  let layout := Viewer.Layout.of ⟨0, 0, width, height⟩
  have hne : (v.render width height).1.analysis.tokens ≠ [] := h.tokens_ne_nil
  have hsettle : (v.render width height).1.settle layout = v.settle layout :=
    Viewer.settle_settle h.tokens_ne_nil layout
  have hdraw : (v.render width height).1.draw layout = v.draw layout := by
    rw [Viewer.draw_eq_drawPages hne, hsettle, Viewer.draw_eq_drawPages h.tokens_ne_nil]
    rfl
  refine ⟨h.offsets _, hcounter, Viewer.get_settle_le h.tokens_ne_nil layout, ?_⟩
  refine Prod.ext ?_ (congrArg (Screen.blank width height).paint hdraw)
  exact congrArg (fun offsets => { v with offsets }) hsettle

theorem Agrees.next (h : s.Agrees) (k : Key) (width height : Nat) :
    (s.next k width height).Agrees := by
  have hlegible : (s.viewer.press k).Legible := by
    rw [Viewer.press_eq_obey]
    exact h.legible.obey k.command
  apply agrees_draw hlegible
  intro p
  rw [hlegible.get_render, Viewer.get_press _ _ _ (Viewer.last_nonneg _ _ _)
    (hlegible.last_le _ p), h.counter_eq]

theorem Agrees.run (h : s.Agrees) (steps : List (Key × Nat × Nat)) : (s.run steps).Agrees := by
  induction steps generalizing s with
  | nil => exact h
  | cons step steps ih => exact ih (h.next step.1 step.2.1 step.2.2)

end Shown

end SourceLens
