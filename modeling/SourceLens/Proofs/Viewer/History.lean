import SourceLens.Proofs.Viewer.Command
import Mathlib.Data.List.Induction

/-! # What a history leaves of the state

A viewer is driven by keys and drawn for windows of any size. All of its state but the offsets is
settled by the number of language switches, by the turns of the focus and by whether a key to quit
was pressed. -/
namespace SourceLens

/-- What happens to a viewer. -/
inductive Event
  | key (k : Key)
  | draw (width height : Nat)

def Event.key? : Event → Option Key
  | key k => some k
  | draw _ _ => none

/-- The keys of a history. -/
def keysOf (es : List Event) : List Key := es.filterMap Event.key?

theorem keysOf_concat_key (es : List Event) (k : Key) :
    keysOf (es ++ [.key k]) = keysOf es ++ [k] := by
  simp [keysOf, Event.key?]

theorem keysOf_concat_draw (es : List Event) (width height : Nat) :
    keysOf (es ++ [.draw width height]) = keysOf es := by
  simp [keysOf, Event.key?]

/-- How often the language was switched. -/
def switches (keys : List Key) : Nat := keys.countP fun k => k = .char 'l' ∨ k = .char 'L'

/-- How far the focus was moved on. -/
def turns (keys : List Key) : Int := (keys.count .tab : Int) - keys.count .backTab

/-- Whether a key to quit was pressed. -/
def Quits (keys : List Key) : Prop := ∃ k ∈ keys, k = .char 'q' ∨ k = .char 'Q' ∨ k = .escape

theorem switches_concat (keys : List Key) (k : Key) :
    switches (keys ++ [k]) = switches keys + if k.command = .switchLanguage then 1 else 0 := by
  simp [switches, List.countP_append, List.countP_singleton, Key.command_eq_switchLanguage_iff]

theorem turns_concat (keys : List Key) (k : Key) :
    turns (keys ++ [k]) = turns keys +
      ((if k.command = .focusNext then 1 else 0) - if k.command = .focusPrevious then 1 else 0) := by
  simp only [turns, List.count_append, List.count_singleton, Key.command_eq_focusNext_iff,
    Key.command_eq_focusPrevious_iff, beq_iff_eq]
  split_ifs <;> simp <;> omega

theorem quits_concat (keys : List Key) (k : Key) :
    Quits (keys ++ [k]) ↔ Quits keys ∨ k.command = .quit := by
  simp [Quits, Key.command_eq_quit_iff, or_and_right, exists_or]

/-- The place of a pane in the round of the focus. -/
def Focus.index : Focus → Nat
  | .source => 0
  | .tokens => 1
  | .symbols => 2

namespace Focus

theorem index_next (f : Focus) : (f.next.index : Int) = (f.index + 1) % 3 := by
  cases f <;> rfl

theorem index_previous (f : Focus) : (f.previous.index : Int) = (f.index - 1) % 3 := by
  cases f <;> rfl

end Focus

namespace Viewer

/-- The state after an event. -/
def after (v : Viewer) : Event → Viewer
  | .key k => v.press k
  | .draw width height => (v.render width height).1

/-- The state after a history. -/
def run (v : Viewer) (es : List Event) : Viewer := es.foldl after v

theorem run_concat (v : Viewer) (es : List Event) (e : Event) :
    v.run (es ++ [e]) = (v.run es).after e := by
  rw [run, List.foldl_append]
  rfl

/-- What is left of a viewer that started on a text, after so many switches of the language and so
many turns of the focus, with a key to quit among the keys or not. -/
structure Reached (source : String) (origin : Origin) (language : Language) (n : Nat)
    (turns : Int) (quits : Prop) (v : Viewer) : Prop where
  language_eq : v.language = if n % 2 = 0 then language else language.other
  origin_eq : v.origin = origin
  source_eq : v.source = if n = 0 ∨ origin ≠ .sample then source else v.language.sample
  analysis_eq : v.analysis = analyze v.source v.language
  index_focus : (v.focus.index : Int) = turns % 3
  quitting_iff : v.quitting = true ↔ quits
  message_eq : v.message =
    if n = 0 then (start source origin language).message else "Switched to " ++ v.language.name

namespace Reached

variable {source : String} {origin : Origin} {language : Language} {n : Nat} {turns : Int}
  {quits : Prop} {v w : Viewer}

theorem of_start (source : String) (origin : Origin) (language : Language) :
    Reached source origin language 0 0 False (start source origin language) where
  language_eq := rfl
  origin_eq := rfl
  source_eq := by simp [start]
  analysis_eq := rfl
  index_focus := rfl
  quitting_iff := by simp [start]
  message_eq := rfl

theorem offsets (h : Reached source origin language n turns quits v) (o : Offsets) :
    Reached source origin language n turns quits { v with offsets := o } :=
  { h with }

theorem quit (h : Reached source origin language n turns quits v) :
    Reached source origin language n turns True { v with quitting := true } :=
  { h with quitting_iff := by simp }

theorem focusNext (h : Reached source origin language n turns quits v) :
    Reached source origin language n (turns + 1) quits { v with focus := v.focus.next } := by
  refine { h with index_focus := ?_ }
  rw [Focus.index_next, h.index_focus]
  omega

theorem focusPrevious (h : Reached source origin language n turns quits v) :
    Reached source origin language n (turns - 1) quits { v with focus := v.focus.previous } := by
  refine { h with index_focus := ?_ }
  rw [Focus.index_previous, h.index_focus]
  omega

theorem switchLanguage (h : Reached source origin language n turns quits v) :
    Reached source origin language (n + 1) turns quits v.switchLanguage where
  language_eq := by
    have hl : v.switchLanguage.language = v.language.other := rfl
    rw [hl, h.language_eq]
    split
    · rw [if_neg (by omega)]
    · rw [if_pos (by omega), Language.other_other]
  origin_eq := h.origin_eq
  source_eq := by
    have hs : v.switchLanguage.source =
        if v.origin = .sample then v.switchLanguage.language.sample else v.source := rfl
    rw [hs, h.origin_eq, h.source_eq]
    by_cases ho : origin = .sample <;> simp [ho]
  analysis_eq := rfl
  index_focus := h.index_focus
  quitting_iff := h.quitting_iff
  message_eq := rfl

/-- A command counts as what it is for. -/
theorem obey (h : Reached source origin language n turns quits v) (c : Command) :
    Reached source origin language (n + if c = .switchLanguage then 1 else 0)
      (turns + ((if c = .focusNext then 1 else 0) - if c = .focusPrevious then 1 else 0))
      (quits ∨ c = .quit) (v.obey c) := by
  cases c with
  | quit => simpa [Viewer.obey] using h.quit
  | switchLanguage => simpa [Viewer.obey] using h.switchLanguage
  | focusNext => simpa [Viewer.obey] using h.focusNext
  | focusPrevious => simpa [Viewer.obey, ← Int.sub_eq_add_neg] using h.focusPrevious
  | scroll motion => simpa [Viewer.obey, scroll] using h.offsets _
  | nothing => simpa [Viewer.obey] using h

end Reached

theorem reached_run (source : String) (origin : Origin) (language : Language) (es : List Event) :
    Reached source origin language (switches (keysOf es)) (turns (keysOf es)) (Quits (keysOf es))
      ((start source origin language).run es) := by
  induction es using List.reverseRecOn with
  | nil =>
    have hq : Quits (keysOf []) = False := by simp [Quits, keysOf]
    rw [hq]
    exact Reached.of_start source origin language
  | append_singleton es e ih =>
    rw [run_concat]
    cases e with
    | key k =>
      rw [keysOf_concat_key, switches_concat, turns_concat, propext (quits_concat _ k), after,
        press_eq_obey]
      exact ih.obey k.command
    | draw width height =>
      rw [keysOf_concat_draw]
      exact ih.offsets _

end Viewer

end SourceLens
