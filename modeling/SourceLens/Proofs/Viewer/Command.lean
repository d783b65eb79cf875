import SourceLens.Viewer
import Mathlib.Tactic.SplitIfs

/-! # What the keys are for

A key quits, switches the language, moves the focus or scrolls. All else that is said about keys
goes through their commands. -/
namespace SourceLens

/-- A way to scroll. -/
inductive Motion
  | up | down | pageUp | pageDown | home | endKey
deriving DecidableEq

namespace Motion

/-- What becomes of an offset before the next drawing. -/
def apply : Motion → Nat → Nat
  | up, x => x - 1
  | down, x => Offsets.forward 1 x
  | pageUp, x => x - Viewer.pageStep
  | pageDown, x => Offsets.forward Viewer.pageStep x
  | home, _ => 0
  | endKey, _ => Offsets.limit

end Motion

/-- What a key is for. -/
inductive Command
  | quit | switchLanguage | focusNext | focusPrevious
  | scroll (motion : Motion)
  | nothing
deriving DecidableEq

def Key.command : Key → Command
  | .char c =>
    if c = 'q' ∨ c = 'Q' then .quit
    else if c = 'l' ∨ c = 'L' then .switchLanguage
    else .nothing
  | .escape => .quit
  | .tab => .focusNext
  | .backTab => .focusPrevious
  | .up => .scroll .up
  | .down => .scroll .down
  | .pageUp => .scroll .pageUp
  | .pageDown => .scroll .pageDown
  | .home => .scroll .home
  | .endKey => .scroll .endKey
  | .left | .right | .enter | .backspace | .function _ | .other => .nothing

namespace Viewer

/-- The state after a command. -/
def obey (v : Viewer) : Command → Viewer
  | .quit => { v with quitting := true }
  | .switchLanguage => v.switchLanguage
  | .focusNext => { v with focus := v.focus.next }
  | .focusPrevious => { v with focus := v.focus.previous }
  | .scroll motion => v.scroll motion.apply
  | .nothing => v

theorem press_eq_obey (v : Viewer) (k : Key) : v.press k = v.obey k.command := by
  cases k with
  | char c =>
    simp only [press, Key.command]
    split_ifs <;> rfl
  | _ => rfl

end Viewer

namespace Key

variable {k : Key}

theorem command_eq_switchLanguage_iff :
    k.command = .switchLanguage ↔ k = .char 'l' ∨ k = .char 'L' := by
  cases k with
  | char c =>
    simp only [command, char.injEq]
    split_ifs with hq hl
    · simp only [false_iff]
      rintro (rfl | rfl) <;> exact absurd hq (by decide)
    · simp [hl]
    · simp [hl]
  | _ => simp [command]

theorem command_eq_quit_iff : k.command = .quit ↔ k = .char 'q' ∨ k = .char 'Q' ∨ k = .escape := by
  cases k with
  | char c =>
    simp only [command, char.injEq, reduceCtorEq, or_false]
    split_ifs with hq hl <;> simp [hq]
  | _ => simp [command]

theorem command_eq_focusNext_iff : k.command = .focusNext ↔ k = .tab := by
  cases k with
  | char c =>
    simp only [command, reduceCtorEq]
    split_ifs <;> simp
  | _ => simp [command]

theorem command_eq_focusPrevious_iff : k.command = .focusPrevious ↔ k = .backTab := by
  cases k with
  | char c =>
    simp only [command, reduceCtorEq]
    split_ifs <;> simp
  | _ => simp [command]

end Key

end SourceLens
