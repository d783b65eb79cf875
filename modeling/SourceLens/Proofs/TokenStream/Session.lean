import SourceLens.Proofs.TokenStream.Progress
import SourceLens.Proofs.TokenStream.Slices

/-! # Cursors of a session

However the requests to a session are mixed, each of its cursors stands behind some number of
tokens of the one text. It moves by the tokens that are asked of it while it is in use, and by
nothing else, until it has given them all. -/
namespace SourceLens

variable {source : String} {language : Language}

namespace Cursor

theorem atToken_of_length_le {n : Nat} (h : (tokenize source language).length ≤ n) :
    atToken source language n = atToken source language (tokenize source language).length := by
  rw [atToken, atToken, List.take_of_length_le h, List.drop_of_length_le h, List.take_length,
    List.drop_length]

/-- There is no place behind the last token. -/
theorem atToken_min (source : String) (language : Language) (n : Nat) :
    atToken source language (min n (tokenize source language).length) =
      atToken source language n := by
  rcases Nat.le_total n (tokenize source language).length with h | h
  · rw [Nat.min_eq_left h]
  · rw [Nat.min_eq_right h, atToken_of_length_le h]

theorem take_atToken (source : String) (language : Language) (n k : Nat) :
    (atToken source language k).take n =
      (((tokenize source language).drop k).take n, atToken source language (k + n)) := by
  induction n generalizing k with
  | zero => rfl
  | succ n ih =>
    by_cases hk : k < (tokenize source language).length
    · simp only [take, next_atToken, List.getElem?_eq_getElem hk, ih]
      rw [List.drop_eq_getElem_cons hk, List.take_succ_cons, Nat.add_right_comm, Nat.add_assoc]
    · rw [Nat.not_lt] at hk
      simp only [take, next_atToken, List.getElem?_eq_none hk]
      rw [List.drop_of_length_le hk, List.take_nil, atToken_of_length_le (by omega),
        ← atToken_of_length_le (n := k + (n + 1)) (by omega)]

theorem remaining_atToken (source : String) (language : Language) (k : Nat) :
    (atToken source language k).remaining = (tokenize source language).drop k :=
  tokenize_drop source language k

end Cursor

namespace Session

variable {s : Session} {c : Cursor} {i k : Nat}

/-- The session after some requests. -/
def run (s : Session) (rs : List Request) : Session := rs.foldl (fun s r => (s.answer r).2) s

/-- The tokens that a request takes from the cursor in use, as long as there are so many. -/
def Request.demand : Request → Nat
  | .next => 1
  | .take n => n
  | .peek | .language | .clone | .use _ => 0

/-- The tokens that requests take from one of the cursors: those asked for while it is in use. -/
def demandOn (i : Nat) (s : Session) : List Request → Nat
  | [] => 0
  | r :: rs => (if s.current = i then r.demand else 0) + demandOn i (s.answer r).2 rs

/-- The cursor with a number stands behind the first `k` tokens of the text. -/
structure StandsAt (source : String) (language : Language) (s : Session) (i k : Nat) : Prop where
  le_length : k ≤ (tokenize source language).length
  getElem?_eq : s.cursors[i]? = some (Cursor.atToken source language k)

theorem getElem?_current (s : Session) : s.cursors[s.current]? = some s.cursor :=
  List.getElem?_eq_getElem s.current_lt

theorem getElem?_move (s : Session) (c : Cursor) (i : Nat) :
    (s.move c).cursors[i]? = if s.current = i then some c else s.cursors[i]? := by
  rw [move, List.getElem?_set]
  split
  · next h => rw [if_pos (h ▸ s.current_lt)]
  · rfl

theorem move_cursor (s : Session) : s.move s.cursor = s := by
  have h : s.cursors.set s.current s.cursor = s.cursors := List.set_getElem_self s.current_lt
  simp only [move, h]

namespace StandsAt

theorem cursor_eq (h : s.StandsAt source language s.current k) :
    s.cursor = Cursor.atToken source language k :=
  Option.some.inj (s.getElem?_current.symm.trans h.getElem?_eq)

/-- A move of the cursor in use is a move of that cursor alone. -/
theorem move (h : s.StandsAt source language i k) (n : Nat)
    (hn : ∀ k, s.cursor = Cursor.atToken source language k →
      c = Cursor.atToken source language (k + n)) :
    (s.move c).StandsAt source language i
      (min (k + if s.current = i then n else 0) (tokenize source language).length) := by
  refine ⟨Nat.min_le_right _ _, ?_⟩
  rw [getElem?_move, Cursor.atToken_min]
  split
  · next hi =>
    subst hi
    rw [hn k h.cursor_eq]
  · exact h.getElem?_eq

theorem answer (h : s.StandsAt source language i k) (r : Request) :
    (s.answer r).2.StandsAt source language i
      (min (k + if s.current = i then r.demand else 0) (tokenize source language).length) := by
  have hstay : min (k + if s.current = i then 0 else 0) (tokenize source language).length = k := by
    rw [ite_self, Nat.add_zero, Nat.min_eq_left h.le_length]
  cases r with
  | next =>
    refine h.move 1 fun k hk => ?_
    rw [hk, Cursor.next_atToken]
  | take n =>
    refine h.move n fun k hk => ?_
    rw [hk, Cursor.take_atToken]
  | peek => rw [Request.demand, hstay]; exact h
  | language => rw [Request.demand, hstay]; exact h
  | clone =>
    rw [Request.demand, hstay]
    obtain ⟨hi, hc⟩ := List.getElem?_eq_some_iff.1 h.getElem?_eq
    refine ⟨h.le_length, ?_⟩
    rw [Session.answer, List.getElem?_append_left hi, h.getElem?_eq]
  | use j =>
    rw [Request.demand, hstay, Session.answer]
    split
    · exact ⟨h.le_length, h.getElem?_eq⟩
    · exact h

theorem run (h : s.StandsAt source language i k) (rs : List Request) :
    (s.run rs).StandsAt source language i
      (min (k + s.demandOn i rs) (tokenize source language).length) := by
  induction rs generalizing s k with
  | nil =>
    rw [demandOn, Nat.add_zero, Nat.min_eq_left h.le_length]
    exact h
  | cons r rs ih =>
    have hrs := ih (h.answer r)
    have hk : ∀ a b l : Nat, min (min (k + a) l + b) l = min (k + (a + b)) l := by omega
    rwa [hk] at hrs

/-! ## What the cursor in use answers -/

theorem answer_next (h : s.StandsAt source language s.current k) :
    s.answer .next = (.token (tokenize source language)[k]?,
      s.move (Cursor.atToken source language (k + 1))) := by
  rw [Session.answer, h.cursor_eq, Cursor.next_atToken]

theorem answer_take (h : s.StandsAt source language s.current k) (n : Nat) :
    s.answer (.take n) = (.tokens (((tokenize source language).drop k).take n),
      s.move (Cursor.atToken source language (k + n))) := by
  rw [Session.answer, h.cursor_eq, Cursor.take_atToken]

theorem answer_peek (h : s.StandsAt source language s.current k) :
    s.answer .peek = (.tokens ((tokenize source language).drop k), s) := by
  rw [Session.answer, h.cursor_eq, Cursor.remaining_atToken]

/-- At the end of the text nothing is left and nothing moves. -/
theorem answer_next_of_end
    (h : s.StandsAt source language s.current (tokenize source language).length) :
    s.answer .next = (.token none, s) := by
  rw [h.answer_next, List.getElem?_eq_none (Nat.le_refl _),
    Cursor.atToken_of_length_le (Nat.le_succ _), ← h.cursor_eq, move_cursor]

theorem clone (h : s.StandsAt source language s.current k) :
    (s.answer .clone).2.StandsAt source language s.cursors.length k := by
  refine ⟨h.le_length, ?_⟩
  rw [Session.answer, List.getElem?_concat_length, h.cursor_eq]

end StandsAt

/-! ## Every cursor stands somewhere -/

/-- Each cursor stands behind some tokens of the text. -/
def AllStand (source : String) (language : Language) (s : Session) : Prop :=
  ∀ i < s.cursors.length, ∃ k, s.StandsAt source language i k

theorem allStand_start (source : String) (language : Language) :
    (start source language).AllStand source language := by
  intro i hi
  obtain rfl : i = 0 := Nat.lt_one_iff.1 hi
  refine ⟨0, Nat.zero_le _, ?_⟩
  rw [Cursor.atToken_zero]
  rfl

theorem length_cursors_answer (s : Session) (r : Request) :
    (s.answer r).2.cursors.length = s.cursors.length + if r = .clone then 1 else 0 := by
  cases r with
  | next => exact List.length_set
  | take n => exact List.length_set
  | peek => rfl
  | language => rfl
  | clone => exact List.length_append
  | use j =>
    rw [answer]
    split <;> rfl

theorem AllStand.answer (h : s.AllStand source language) (r : Request) :
    (s.answer r).2.AllStand source language := by
  intro i hi
  by_cases hold : i < s.cursors.length
  · obtain ⟨k, hk⟩ := h i hold
    exact ⟨_, hk.answer r⟩
  · rw [length_cursors_answer] at hi
    split at hi
    · next hr =>
      subst hr
      obtain ⟨k, hk⟩ := h s.current s.current_lt
      obtain rfl : i = s.cursors.length := by omega
      exact ⟨k, hk.clone⟩
    · exact absurd hi hold

theorem AllStand.run (h : s.AllStand source language) (rs : List Request) :
    (s.run rs).AllStand source language := by
  induction rs generalizing s with
  | nil => exact h
  | cons r rs ih => exact ih (h.answer r)

/-- What a session on a text answers, whatever was asked before. Each of its cursors stands behind
some of the tokens, and whatever is asked later it moves by the tokens that are taken from it and
stops at the end. The one in use gives the next tokens from its place on, and a copy of it stands in
the same place. -/
theorem standsAt_run_start (source : String) (language : Language) (rs : List Request) :
    let tokens := tokenize source language
    let s := (start source language).run rs
    (∀ i < s.cursors.length, ∃ k, s.StandsAt source language i k) ∧
      (∀ i k, s.StandsAt source language i k →
        s.cursors[i]?.map Cursor.position = some (spell (tokens.take k)).utf8ByteSize ∧
        (∀ later, (s.run later).StandsAt source language i
          (min (k + s.demandOn i later) tokens.length)) ∧
        ∀ later, s.demandOn i later = 0 ∨ k = tokens.length →
          (s.run later).cursors[i]? = s.cursors[i]?) ∧
      ∀ k, s.StandsAt source language s.current k →
        (∀ t, tokens[k]? = some t →
          s.answer .next = (.token (some t), s.move (.atToken source language (k + 1)))) ∧
        (k = tokens.length → s.answer .next = (.token none, s)) ∧
        (∀ n, s.answer (.take n) = (.tokens (tokens.extract k (min (k + n) tokens.length)),
          s.move (.atToken source language (min (k + n) tokens.length)))) ∧
        s.answer .peek = (.tokens (tokens.drop k), s) ∧
        (s.answer .clone).1 = .index s.cursors.length ∧
        (s.answer .clone).2.cursors = s.cursors ++ [.atToken source language k] ∧
        (s.answer .clone).2.current = s.current ∧
        ∀ i < s.cursors.length, (s.answer (.use i)).1 = .done ∧
          (s.answer (.use i)).2.cursors = s.cursors ∧ (s.answer (.use i)).2.current = i := by
  intro tokens s
  refine ⟨(allStand_start source language).run rs, ?_, ?_⟩
  · intro i k h
    have hrun : ∀ later, (s.run later).StandsAt source language i
        (min (k + s.demandOn i later) tokens.length) := h.run
    refine ⟨?_, hrun, ?_⟩
    · rw [h.getElem?_eq]
      rfl
    · intro later hlater
      have hk : min (k + s.demandOn i later) tokens.length = k := by
        have hle : k ≤ tokens.length := h.le_length
        omega
      have hstay := (hrun later).getElem?_eq
      rw [hk] at hstay
      rw [hstay, h.getElem?_eq]
  · intro k h
    refine ⟨?_, ?_, ?_, h.answer_peek, rfl, ?_, rfl, ?_⟩
    · intro t ht
      rw [h.answer_next, ht]
    · rintro rfl
      exact h.answer_next_of_end
    · intro n
      have hn : (tokens.drop k).take n = tokens.extract k (min (k + n) tokens.length) := by
        rw [List.extract_eq_take_drop, List.take_eq_take_iff, List.length_drop]
        omega
      rw [h.answer_take, Cursor.atToken_min, hn]
    · exact congrArg (fun c => s.cursors ++ [c]) h.cursor_eq
    · intro i hi
      simp only [answer, dif_pos hi]
      exact ⟨trivial, trivial, trivial⟩

end Session

end SourceLens
