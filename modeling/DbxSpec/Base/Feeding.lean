import Mathlib.Data.List.Basic

/-!
# Machines that wait for more input

A feeder reads a list from left to right and is told whether the list ends the input. Where it
does not, a round may wait: what has not been read is kept and put in front of the next
chunk. If no round but the last chunk's fails, and every round that reads does what the whole
input would have it do, then the cuts between the chunks do not matter.
-/

namespace DbxSpec.Base

/-- What one round does: wait for more input, fail, or go on in a state after some output and
after `skip` further elements have been read. -/
inductive Round (σ ω ε : Type) where
  | wait
  | fail (error : ε)
  | take (state : σ) (out : List ω) (skip : Nat)

/-- A machine with state `σ`, input `α`, output `ω` and errors `ε`. `step` is told whether the
input ends with the list, and `finish` gives the output for what is left when it does. -/
structure Feeder (σ α ω ε : Type) where
  step : Bool → σ → α → List α → Round σ ω ε
  finish : σ → List α → Except ε (List ω)

namespace Feeder

variable {σ α ω ε : Type} (m : Feeder σ α ω ε)

/-- Read a list of which the first `skip` elements have been read already: the state, the output
and what has been left unread. -/
def run (eof : Bool) : Nat → σ → List α → Except ε (σ × List ω × List α)
  | _, s, [] => .ok (s, [], [])
  | skip + 1, s, _ :: rest => run eof skip s rest
  | 0, s, a :: rest =>
    match m.step eof s a rest with
    | .wait => .ok (s, [], a :: rest)
    | .fail error => .error error
    | .take s' out skip => (run eof skip s' rest).map fun later =>
      (later.1, out ++ later.2.1, later.2.2)

/-- The output for an input that ends with the list. -/
def outcome (s : σ) (text : List α) : Except ε (List ω) :=
  (m.run true 0 s text).bind fun last => (m.finish last.1 last.2.2).map (last.2.1 ++ ·)

/-- Feed chunks, the last of which ends the input. -/
def feedAll : σ → List α → List (List α) → List α → Except ε (List ω)
  | s, pending, [], last => m.outcome s (pending ++ last)
  | s, pending, chunk :: chunks, last =>
    (m.run false 0 s (pending ++ chunk)).bind fun now =>
      (feedAll now.1 now.2.2 chunks last).map (now.2.1 ++ ·)

private theorem run_eq_drop (eof : Bool) (skip : Nat) (s : σ) (text : List α) :
    m.run eof skip s text = m.run eof 0 s (text.drop skip) := by
  induction text generalizing skip with
  | nil => simp [run]
  | cons a rest ih =>
    cases skip with
    | zero => rfl
    | succ skip => simpa [run] using ih skip

/-- One round that reads, at the end of the input. -/
theorem outcome_take {s s' : σ} {a : α} {rest : List α} {out : List ω} {skip : Nat}
    (h : m.step true s a rest = .take s' out skip) :
    m.outcome s (a :: rest) = (m.outcome s' (rest.drop skip)).map (out ++ ·) := by
  rw [outcome, run, h, outcome, ← m.run_eq_drop]
  dsimp only
  rcases m.run true skip s' rest with _ | last
  · rfl
  simp only [Except.map, Except.bind]
  cases m.finish last.1 last.2.2 with
  | error e => rfl
  | ok tail => simp

/-- A machine whose rounds may be cut off from the rest of the input: none fails before the end,
and one that reads leaves the outcome as it is, whatever follows. -/
structure Patient : Prop where
  step_ne_fail : ∀ s a rest error, m.step false s a rest ≠ .fail error
  step_take : ∀ {s a rest s' out skip}, m.step false s a rest = .take s' out skip →
    ∀ future, m.outcome s (a :: rest ++ future) =
      (m.outcome s' (rest.drop skip ++ future)).map (out ++ ·)

variable {m}

private theorem map_append_append (out out' : List ω) (later : Except ε (List ω)) :
    (later.map (out' ++ ·)).map (out ++ ·) = later.map ((out ++ out') ++ ·) := by
  cases later with
  | error e => rfl
  | ok text => simp [Except.map]

/-- Reading a chunk leaves the outcome as it is. The induction is on the chunk, since a round
reads at least its first element. -/
theorem Patient.run_false (hm : m.Patient) (text : List α) (skip : Nat) (s : σ) :
    ∃ now, m.run false skip s text = .ok now ∧ ∀ future, m.outcome s (text.drop skip ++ future) =
        (m.outcome now.1 (now.2.2 ++ future)).map (now.2.1 ++ ·) := by
  have hid : ∀ (s : σ) (text : List α), m.outcome s text = (m.outcome s text).map ([] ++ ·) := by
    intro s text
    cases m.outcome s text <;> simp [Except.map]
  induction text generalizing skip s with
  | nil => exact ⟨(s, [], []), by simp [run], fun future => by simpa using hid s future⟩
  | cons a rest ih =>
    cases skip with
    | succ skip => exact ih skip s
    | zero =>
      cases hstep : m.step false s a rest with
      | wait => exact ⟨(s, [], a :: rest), by simp [run, hstep], fun future => hid s _⟩
      | fail error => exact absurd hstep (hm.step_ne_fail s a rest error)
      | take s' out more =>
        obtain ⟨now, hrun, hnow⟩ := ih more s'
        refine ⟨(now.1, out ++ now.2.1, now.2.2), by simp [run, hstep, hrun, Except.map], ?_⟩
        intro future
        rw [List.drop_zero, hm.step_take hstep future, hnow future, map_append_append]

/-- However the input is cut, the outcome is that of the whole. -/
theorem Patient.feedAll_eq (hm : m.Patient) (chunks : List (List α)) (last : List α) (s : σ)
    (pending : List α) :
    m.feedAll s pending chunks last = m.outcome s (pending ++ chunks.flatten ++ last) := by
  induction chunks generalizing s pending with
  | nil => simp [feedAll]
  | cons chunk chunks ih =>
    obtain ⟨now, hrun, hnow⟩ := hm.run_false (pending ++ chunk) 0 s
    rw [feedAll, hrun]
    simp only [Except.bind]
    rw [ih, List.append_assoc now.2.2, ← hnow (chunks.flatten ++ last)]
    simp

end Feeder

end DbxSpec.Base
