import Mathlib.Data.List.Basic

/-!
# Scanners that are fed in chunks

A scanner reads a list from left to right. One step sees the current element and the rest
of the chunk it stands in, emits some output, and may consume further elements of that
chunk. Looking ahead stops at the end of the chunk, so cutting the input may change what a
step does. Three rules: what every step establishes holds of a whole scan; two scans of
the same input, one of them chunked, agree as long as their steps do; and a scanner that
answers each step of another by a run over the same elements answers its scans.
-/

namespace DbxSpec.Base

/-- What one step does: the next state, the output and the number of elements of the rest that
the step has consumed too. -/
structure ScanStep (σ ω : Type) where
  state : σ
  out : List ω
  skip : Nat

/-- A scanner with state `σ`, input `α` and output `ω`. `resume` is applied to the state and the
first element when a new nonempty chunk arrives. -/
structure Scanner (σ α ω : Type) where
  resume : σ → α → σ
  step : σ → α → List α → ScanStep σ ω

namespace Scanner

variable {σ α ω : Type} (m : Scanner σ α ω)

/-- Scan a chunk of which the first `skip` elements are consumed already. -/
def scan : Nat → σ → List α → σ × List ω
  | _, s, [] => (s, [])
  | skip + 1, s, _ :: rest => scan skip s rest
  | 0, s, a :: rest =>
    let now := m.step s a rest
    let later := scan now.skip now.state rest
    (later.1, now.out ++ later.2)

/-- Feed one chunk. -/
def push (s : σ) : List α → σ × List ω
  | [] => (s, [])
  | a :: rest => m.scan 0 (m.resume s a) (a :: rest)

/-- Feed a list of chunks. -/
def pushAll (s : σ) : List (List α) → σ × List ω
  | [] => (s, [])
  | chunk :: chunks =>
    let now := m.push s chunk
    let later := pushAll now.1 chunks
    (later.1, now.2 ++ later.2)

/-- A relation between a state, the elements consumed, the output and the next state that holds
of every step and composes holds of every scan. -/
theorem scan_of_step {Q : σ → List α → List ω → σ → Prop} (nil : ∀ s, Q s [] [] s)
    (trans : ∀ {s t out s' t' out' s''}, Q s t out s' → Q s' t' out' s'' →
      Q s (t ++ t') (out ++ out') s'')
    (step : ∀ s a rest, Q s (a :: rest.take (m.step s a rest).skip)
      (m.step s a rest).out (m.step s a rest).state)
    (skip : Nat) (s : σ) (text : List α) :
    Q s (text.drop skip) (m.scan skip s text).2 (m.scan skip s text).1 := by
  induction text generalizing skip s with
  | nil => simpa [scan] using nil s
  | cons a rest ih =>
    cases skip with
    | succ skip => simpa [scan] using ih skip s
    | zero =>
      have hnow := step s a rest
      have hlater := ih (m.step s a rest).skip (m.step s a rest).state
      simpa [scan] using trans hnow hlater

private theorem scan_eq_drop (skip : Nat) (s : σ) (text : List α) :
    m.scan skip s text = m.scan 0 s (text.drop skip) := by
  induction text generalizing skip with
  | nil => simp [scan]
  | cons a rest ih =>
    cases skip with
    | zero => rfl
    | succ skip => simpa [scan] using ih skip

/-! ### Runs -/

/-- The scan of `text` from `s` emits `out` and goes on as the scan of `text'` from `s'`. -/
def Runs (s : σ) (text : List α) (out : List ω) (s' : σ) (text' : List α) : Prop :=
  m.scan 0 s text = ((m.scan 0 s' text').1, out ++ (m.scan 0 s' text').2)

/-- Runs compose. -/
theorem Runs.trans {m : Scanner σ α ω} {s s' s'' : σ} {text text' text'' : List α}
    {out out' : List ω} (h : m.Runs s text out s' text') (h' : m.Runs s' text' out' s'' text'') :
    m.Runs s text (out ++ out') s'' text'' := by
  unfold Runs at h h' ⊢
  rw [h, h', List.append_assoc]

/-- One step is a run. -/
theorem runs_step {s s' : σ} {a : α} {rest : List α} {out : List ω} {skip : Nat}
    (h : m.step s a rest = ⟨s', out, skip⟩) : m.Runs s (a :: rest) out s' (rest.drop skip) := by
  unfold Runs
  rw [← scan_eq_drop, scan, h]

/-- `P` holds at every step of the scan of a chunk, for the state before the step, the element,
the rest of the chunk and the input that follows the chunk. -/
def Along (P : σ → α → List α → List α → Prop) (following : List α) :
    Nat → σ → List α → Prop
  | _, _, [] => True
  | skip + 1, s, _ :: rest => Along P following skip s rest
  | 0, s, a :: rest =>
    P s a rest following ∧
      Along P following (m.step s a rest).skip (m.step s a rest).state rest

/-- `P` holds at every step while a list of chunks is fed. -/
def AlongAll (P : σ → α → List α → List α → Prop) : σ → List (List α) → Prop
  | _, [] => True
  | s, [] :: chunks => AlongAll P s chunks
  | s, (a :: rest) :: chunks =>
    m.Along P chunks.flatten 0 (m.resume s a) (a :: rest) ∧
      AlongAll P (m.push s (a :: rest)).1 chunks

instance decidableAlong {P : σ → α → List α → List α → Prop}
    [∀ s a rest following, Decidable (P s a rest following)] (following : List α) :
    ∀ skip s chunk, Decidable (m.Along P following skip s chunk)
  | _, _, [] => isTrue (by simp [Along])
  | skip + 1, s, _ :: rest =>
    have := decidableAlong (P := P) following skip s rest
    decidable_of_iff (m.Along P following skip s rest) (Iff.of_eq (by rw [Along]))
  | 0, s, a :: rest =>
    have := decidableAlong (P := P) following (m.step s a rest).skip (m.step s a rest).state rest
    decidable_of_iff (P s a rest following ∧
      m.Along P following (m.step s a rest).skip (m.step s a rest).state rest)
      (Iff.of_eq (by rw [Along]))

instance decidableAlongAll {P : σ → α → List α → List α → Prop}
    [∀ s a rest following, Decidable (P s a rest following)] :
    ∀ s chunks, Decidable (m.AlongAll P s chunks)
  | _, [] => isTrue (by simp [AlongAll])
  | s, [] :: chunks =>
    have := decidableAlongAll (P := P) s chunks
    decidable_of_iff (m.AlongAll P s chunks) (Iff.of_eq (by rw [AlongAll]))
  | s, (a :: rest) :: chunks =>
    have := decidableAlongAll (P := P) (m.push s (a :: rest)).1 chunks
    decidable_of_iff (m.Along P chunks.flatten 0 (m.resume s a) (a :: rest) ∧
      m.AlongAll P (m.push s (a :: rest)).1 chunks) (Iff.of_eq (by rw [AlongAll]))

/-- How a chunked scan stays in step with a scan of the whole input. `Within` relates the two
states inside a chunk and `Between` at the end of one, both given the input that remains.
`P` is what a step of the chunked scan has to meet. -/
structure ChunkSimulation (P : σ → α → List α → List α → Prop)
    (Within Between : σ → σ → List α → Prop) : Prop where
  start : ∀ {s w a following}, Between s w (a :: following) →
    Within (m.resume s a) w (a :: following)
  out : ∀ {s w a rest following}, Within s w (a :: (rest ++ following)) → P s a rest following →
    (m.step s a rest).out = (m.step w a (rest ++ following)).out
  skip : ∀ {s w a rest following}, Within s w (a :: (rest ++ following)) → P s a rest following →
    (m.step s a rest).skip = (m.step w a (rest ++ following)).skip
  skip_le : ∀ s a rest, (m.step s a rest).skip ≤ rest.length
  inside : ∀ {s w a rest following}, Within s w (a :: (rest ++ following)) →
    P s a rest following → rest.drop (m.step s a rest).skip ≠ [] →
    Within (m.step s a rest).state (m.step w a (rest ++ following)).state
      (rest.drop (m.step s a rest).skip ++ following)
  atEnd : ∀ {s w a rest following}, Within s w (a :: (rest ++ following)) →
    P s a rest following → rest.drop (m.step s a rest).skip = [] →
    Between (m.step s a rest).state (m.step w a (rest ++ following)).state following

namespace ChunkSimulation

variable {m} {P : σ → α → List α → List α → Prop} {Within Between : σ → σ → List α → Prop}

/-- Inside one chunk the two scans emit the same and stay related. The induction is on the
chunk; what follows it is the same throughout. -/
theorem scan_append (sim : m.ChunkSimulation P Within Between) (following chunk : List α)
    (skip : Nat) (s w : σ) (hskip : skip ≤ chunk.length)
    (halong : m.Along P following skip s chunk)
    (hwithin : chunk.drop skip ≠ [] → Within s w (chunk.drop skip ++ following))
    (hbetween : chunk.drop skip = [] → Between s w following) :
    ∃ w', Between (m.scan skip s chunk).1 w' following ∧ m.scan skip w (chunk ++ following) =
        ((m.scan 0 w' following).1, (m.scan skip s chunk).2 ++ (m.scan 0 w' following).2) := by
  induction chunk generalizing skip s w with
  | nil =>
    have hzero : skip = 0 := by simpa using hskip
    subst hzero
    exact ⟨w, by simpa [scan] using hbetween (by simp), by simp [scan]⟩
  | cons a rest ih =>
    cases skip with
    | succ skip =>
      have hle : skip ≤ rest.length := by simpa using hskip
      simpa [scan] using ih skip s w hle halong hwithin hbetween
    | zero =>
      obtain ⟨hP, hlater⟩ := halong
      have hin : Within s w (a :: (rest ++ following)) := by simpa using hwithin (by simp)
      obtain ⟨w', hb, heq⟩ := ih _ _ (m.step w a (rest ++ following)).state
        (sim.skip_le s a rest) hlater (sim.inside hin hP) (sim.atEnd hin hP)
      refine ⟨w', by simpa [scan] using hb, ?_⟩
      rw [List.cons_append]
      simp only [scan]
      rw [← sim.skip hin hP, ← sim.out hin hP, heq]
      simp [List.append_assoc]

/-- Feeding chunks emits what scanning their concatenation emits, and ends in related states. -/
theorem pushAll (sim : m.ChunkSimulation P Within Between) (chunks : List (List α)) (s w : σ)
    (halong : m.AlongAll P s chunks) (hbetween : Between s w chunks.flatten) :
    Between (m.pushAll s chunks).1 (m.scan 0 w chunks.flatten).1 [] ∧
      (m.pushAll s chunks).2 = (m.scan 0 w chunks.flatten).2 := by
  induction chunks generalizing s w with
  | nil => simpa [Scanner.pushAll, scan] using hbetween
  | cons chunk chunks ih =>
    rcases chunk with _ | ⟨a, rest⟩
    · simpa [Scanner.pushAll, push] using ih s w halong (by simpa using hbetween)
    obtain ⟨hchunk, hchunks⟩ := halong
    have hwithin := sim.start (by simpa using hbetween)
    obtain ⟨w', hb, heq⟩ := sim.scan_append chunks.flatten (a :: rest) 0
      (m.resume s a) w (Nat.zero_le _) hchunk (fun _ => by simpa using hwithin) (by simp)
    obtain ⟨hfinal, hout⟩ := ih _ w' hchunks hb
    rw [List.flatten_cons, heq]
    exact ⟨hfinal, by rw [← hout]; rfl⟩

end ChunkSimulation

/-! ### Two scanners of one input -/

/-- A scanner whose step may fail; a failure is final. -/
def fallible (step : σ → α → List α → Option (ScanStep σ ω)) : Scanner (Option σ) α ω where
  resume s _ := s
  step s a rest := match s.bind (step · a rest) with
    | some now => ⟨some now.state, now.out, now.skip⟩
    | none => ⟨none, [], 0⟩

/-- A step that does not fail. -/
theorem fallible_step {step : σ → α → List α → Option (ScanStep σ ω)} {s : σ} {a : α}
    {rest : List α} {now : ScanStep σ ω} (h : step s a rest = some now) :
    (fallible step).step (some s) a rest = ⟨some now.state, now.out, now.skip⟩ := by
  simp only [fallible, Option.bind_some, h]

section

variable {τ ψ : Type}

/-- `n` answers each step of `m` that meets `P` by a run over the same elements. `R` relates the
states given the input that remains, and `E` relates what has been emitted. -/
structure RunSimulation (n : Scanner τ α ψ) (P : σ → α → List α → Prop)
    (R : σ → τ → List α → Prop) (E : List ω → List ψ → Prop) : Prop where
  nil : E [] []
  append : ∀ {out later out' later'}, E out out' → E later later' →
    E (out ++ later) (out' ++ later')
  step : ∀ {s t a rest}, R s t (a :: rest) → P s a rest →
    ∃ t' out', n.Runs t (a :: rest) out' t' (rest.drop (m.step s a rest).skip) ∧
      E (m.step s a rest).out out' ∧
      R (m.step s a rest).state t' (rest.drop (m.step s a rest).skip)

/-- Scans that start in related states emit related outputs and end in related states. -/
theorem RunSimulation.scan {m : Scanner σ α ω} {n : Scanner τ α ψ} {P : σ → α → List α → Prop}
    {R : σ → τ → List α → Prop} {E : List ω → List ψ → Prop} (sim : m.RunSimulation n P R E)
    (text : List α) (skip : Nat) (s : σ) (t : τ)
    (halong : m.Along (fun s a rest _ => P s a rest) [] skip s text)
    (hrel : R s t (text.drop skip)) :
    R (m.scan skip s text).1 (n.scan 0 t (text.drop skip)).1 [] ∧
      E (m.scan skip s text).2 (n.scan 0 t (text.drop skip)).2 := by
  induction text generalizing skip s t with
  | nil =>
    rw [List.drop_nil] at hrel ⊢
    exact ⟨hrel, sim.nil⟩
  | cons a rest ih =>
    cases skip with
    | succ skip => exact ih skip s t halong hrel
    | zero =>
      obtain ⟨hP, hlater⟩ := halong
      obtain ⟨t', out', hrun, hout, hrel'⟩ := sim.step hrel hP
      obtain ⟨hend, hrest⟩ := ih _ _ t' hlater hrel'
      rw [List.drop_zero, hrun]
      exact ⟨hend, sim.append hout hrest⟩

end

end Scanner

end DbxSpec.Base
