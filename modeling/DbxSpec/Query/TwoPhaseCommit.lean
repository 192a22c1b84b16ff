import Mathlib.Data.List.Infix

/-!
# The log of a two-phase commit

`execute` and `recover` are the calls they make, in order, and may be cut off behind any of them.
A call counts if it writes the log or reaches a participant: the loads of the log and the state
machine, which has a key of its own, change neither. Along a run the stored status tells the truth
exactly if no recovery concludes from it, or from answers of its own, what earlier commits have
made wrong.
-/

namespace DbxSpec.Query

open List

/-- `two_phase_commit.rs:11`. -/
inductive TransactionStatus
  | preparing | prepared | committing | committed | rollingBack | rolledBack | mixed | unknown
  deriving DecidableEq

/-- A call that has returned. A participant is its place in the list and `true` stands for `Ok`. -/
inductive Call
  | save (status : TransactionStatus)
  | prepare (answer : Nat × Bool)
  | commit (answer : Nat × Bool)
  | rollback (answer : Nat × Bool)

/-- What the participants answer during one `execute` or `recover`. A commit is answered for each
number of retries that are left. -/
structure Answers where
  prepare : Nat → Bool
  commit : Nat → Nat → Bool
  rollback : Nat → Bool

/-- `two_phase_commit.rs:232`, which returns at the first refusal. -/
def preparePhase (a : Answers) : List Nat → List (Nat × Bool)
  | [] => []
  | p :: participants => (p, a.prepare p) :: if a.prepare p then preparePhase a participants else []

/-- `two_phase_commit.rs:262`, with so many retries left: the answers and the results. -/
def commitPhase (a : Answers) : Nat → List Nat → List (Nat × Bool) × List (Nat × Bool)
  | 0, pending =>
    let answers := pending.map fun p => (p, a.commit 0 p)
    (answers, answers)
  | retries + 1, pending =>
    let answers := pending.map fun p => (p, a.commit (retries + 1) p)
    let nextPending := pending.filter (!a.commit (retries + 1) ·)
    if nextPending.isEmpty then (answers, answers.filter (·.2))
    else
      let later := commitPhase a retries nextPending
      (answers ++ later.1, answers.filter (·.2) ++ later.2)

/-- `two_phase_commit.rs:311`. -/
def rollbackPhase (a : Answers) (participants : List Nat) : List (Nat × Bool) :=
  participants.map fun p => (p, a.rollback p)

/-- The status that follows from the results of a commit phase. -/
def finalStatus (participants : List Nat) (results : List (Nat × Bool)) : TransactionStatus :=
  if participants.isEmpty || !results.isEmpty && results.all (·.2) then .committed
  else if results.any (·.2) then .mixed
  else .rolledBack

/-- The calls, and the status that is written behind them if they did not end in an error. -/
def thenSave (calls : List Call) (ok : Bool) (status : TransactionStatus) : List Call :=
  calls ++ if ok then [.save status] else []

section Calls

variable (count : Nat) (a : Answers)

/-- `two_phase_commit.rs:146`, for so many participants. An error of a rollback is dropped. -/
def execute : List Call :=
  let participants := range count
  let votes := preparePhase a participants
  let begun : List Call := [.save .preparing, .save .preparing] ++ votes.map .prepare
  let rollback := Call.save .rollingBack :: (rollbackPhase a participants).map .rollback
  if votes.all (·.2) then
    let results := commitPhase a 2 participants
    let calls := begun ++ [.save .prepared, .save .committing] ++ results.1.map .commit
    let final := finalStatus participants results.2
    thenSave (if final = .committed then calls else calls ++ rollback) true final
  else thenSave (begun ++ rollback) true .rolledBack

/-- `two_phase_commit.rs:325`, with what the log holds. An error of a rollback is returned. -/
def recover (status : Option TransactionStatus) : List Call :=
  let results := commitPhase a 2 (range count)
  let calls := results.1.map .commit
  let final := finalStatus (range count) results.2
  let rollback := rollbackPhase a (range count)
  match status with
  | some .preparing | some .prepared | some .rollingBack =>
    thenSave (rollback.map .rollback) (rollback.all (·.2)) .rolledBack
  | some .committing =>
    if final = .committed then thenSave calls true final
    else thenSave (calls ++ rollback.map .rollback) (rollback.all (·.2)) final
  | some .committed | some .rolledBack | some .mixed | some .unknown | none => []

end Calls

/-- The status in the log after a history of calls. -/
def storedStatus (history : List Call) : Option TransactionStatus :=
  history.foldl (fun stored call => match call with
    | .save status => some status
    | _ => stored) none

/-- The answers to the commits of a history. -/
def commitAnswers (history : List Call) : List (Nat × Bool) :=
  history.filterMap fun call => match call with
    | .commit answer => some answer
    | _ => none

/-- An `execute` or `recover` that is cut off after so many calls. -/
structure Attempt where
  answers : Answers
  cut : Nat

/-- No participant is asked again after it has answered `Ok`. -/
def AskedOnce (answers : List (Nat × Bool)) : Prop :=
  answers.Pairwise fun earlier later => earlier.2 → later.1 ≠ earlier.1

/-- The participant answers one of the commits of a phase with `Ok`. -/
def Answers.commits (a : Answers) (retries p : Nat) : Bool :=
  (range (retries + 1)).any (a.commit · p)

section Run

variable (count : Nat)

/-- The calls of a run: one `execute`, then any number of recoveries. -/
def runHistory (first : Attempt) (recoveries : List Attempt) : List Call :=
  recoveries.foldl (fun history r =>
      history ++ (recover count r.answers (storedStatus history)).take r.cut)
    ((execute count first.answers).take first.cut)

variable (history : List Call)

/-- The stored status says what the commits of the history have returned. -/
def TellsTruth : Prop :=
  (storedStatus history = some .committed → ∀ p < count, (p, true) ∈ commitAnswers history) ∧
  (storedStatus history = some .rolledBack → ∀ p, (p, true) ∉ commitAnswers history) ∧
  (storedStatus history = some .mixed → (∃ p < count, (p, true) ∈ commitAnswers history) ∧
    ∃ p < count, (p, true) ∉ commitAnswers history)

/-- The stored status tells the truth at every moment of the history. -/
def Truthful : Prop := ∀ moment, moment <+: history → TellsTruth count moment

/-- If some participants fail in a commit phase, one of these has failed all along, and if all of
them fail, none has committed before. -/
def CommitsSafe (a : Answers) : Prop :=
  (∃ p < count, ¬a.commits 2 p) →
    (∃ p < count, ¬a.commits 2 p ∧ (p, true) ∉ commitAnswers history) ∧
    ((∀ p < count, ¬a.commits 2 p) → ∀ p, (p, true) ∉ commitAnswers history)

/-- A recovery that is not cut off and whose rollbacks succeed concludes nothing from the status it
finds, or from its own commits, that the commits before it make wrong. -/
def RecoverySafe (r : Attempt) : Prop :=
  (recover count r.answers (storedStatus history)).length ≤ r.cut →
  (∀ p < count, r.answers.rollback p) →
    (storedStatus history ∈ [some .preparing, some .prepared, some .rollingBack] →
      ∀ p, (p, true) ∉ commitAnswers history) ∧
    (storedStatus history = some .committing → CommitsSafe count history r.answers)

end Run

/-! ### The commit phase -/

section Phase

variable {a : Answers} {p retries count : Nat} {pending : List Nat}

private theorem commits_succ :
    a.commits (retries + 1) p = (a.commits retries p || a.commit (retries + 1) p) := by
  simp [Answers.commits, range_succ (n := retries + 1)]

private theorem commitPhase_succ : commitPhase a (retries + 1) pending =
    let answers := pending.map fun p => (p, a.commit (retries + 1) p)
    let later := commitPhase a retries (pending.filter (!a.commit (retries + 1) ·))
    (answers ++ later.1, answers.filter (·.2) ++ later.2) := by
  rw [commitPhase]
  split_ifs with hnext
  · rw [List.isEmpty_iff.1 hnext]
    cases retries <;> simp [commitPhase]
  · rfl

private theorem mem_commitPhase {ok : Bool} :
    ((p, true) ∈ (commitPhase a retries pending).1 ↔ p ∈ pending ∧ a.commits retries p) ∧
      ((p, ok) ∈ (commitPhase a retries pending).1 → p ∈ pending) ∧
      ((p, ok) ∈ (commitPhase a retries pending).2 ↔ p ∈ pending ∧ a.commits retries p = ok) := by
  induction retries generalizing pending with
  | zero => simp +contextual [commitPhase, Answers.commits]
  | succ retries ih =>
    rw [commitPhase_succ, commits_succ]
    obtain ⟨hanswers, hasked, hresults⟩ :=
      @ih (pending.filter (!a.commit (retries + 1) ·))
    simp only [mem_append, hanswers, hresults]
    refine ⟨?_, ?_, ?_⟩
    · cases hp : a.commit (retries + 1) p <;> simp [hp]
    · rintro (hnow | hlater)
      · simp_all
      · exact (mem_filter.1 (hasked hlater)).1
    · cases hp : a.commit (retries + 1) p <;> cases ok <;> simp [hp]

private theorem askedOnce_commitPhase (h : pending.Nodup) :
    AskedOnce (commitPhase a retries pending).1 := by
  induction retries generalizing pending with
  | zero => exact pairwise_map.2 (h.imp (by grind))
  | succ retries ih =>
    rw [commitPhase_succ]
    refine pairwise_append.2 ⟨pairwise_map.2 (h.imp (by grind)), ih (h.filter _), ?_⟩
    intro earlier he later hl hok
    have := mem_commitPhase.2.1 hl
    grind

private theorem finalStatus_commitPhase :
    finalStatus (range count) (commitPhase a 2 (range count)).2 =
      if ∀ p < count, a.commits 2 p then .committed
      else if ∃ p < count, a.commits 2 p then .mixed
      else .rolledBack := by
  have hempty : (commitPhase a 2 (range count)).2.isEmpty ↔ count = 0 := by
    simp only [List.isEmpty_iff, eq_nil_iff_forall_not_mem, Prod.forall, mem_commitPhase, mem_range]
    exact ⟨fun h => Nat.eq_zero_of_not_pos fun hpos => h 0 _ ⟨hpos, rfl⟩, by simp +contextual⟩
  have hall : (commitPhase a 2 (range count)).2.all (·.2) ↔ ∀ p < count, a.commits 2 p := by
    simp [mem_commitPhase]
  have hany : (commitPhase a 2 (range count)).2.any (·.2) ↔ ∃ p < count, a.commits 2 p := by
    simp [mem_commitPhase]
  simp only [finalStatus, Bool.or_eq_true, Bool.and_eq_true, hall, hany]
  grind

end Phase

/-! ### The stored status along a run -/

/-- The status is not one of those that end a transaction. -/
@[simp]
def TransactionStatus.Working (status : TransactionStatus) : Prop :=
  status ≠ .committed ∧ status ≠ .rolledBack ∧ status ≠ .mixed

section Status

variable {count cut : Nat} {history calls : List Call} {call : Call} {status : TransactionStatus}
  {a : Answers}

private theorem truthful_concat : Truthful count (history ++ [call]) ↔
    Truthful count history ∧ TellsTruth count (history ++ [call]) := by
  simp only [Truthful, prefix_concat_iff, or_imp, forall_and, forall_eq, and_comm]

private theorem truthful_append (hworking : ∀ s ∈ storedStatus history, s.Working)
    (h : ∀ s, .save s ∈ calls → s.Working) :
    (∀ s ∈ storedStatus (history ++ calls), s.Working) ∧
      (Truthful count (history ++ calls) ↔ Truthful count history) := by
  induction calls using reverseRecOn with
  | nil => simpa using hworking
  | append_singleton calls call ih =>
    obtain ⟨ih, htruth⟩ := ih fun s hs => h s (by simp [hs])
    have hlast : ∀ s ∈ storedStatus (history ++ calls ++ [call]), s.Working := by
      rw [storedStatus, foldl_append]
      cases call with
      | save s => simpa using h s (by simp)
      | _ => exact ih
    rw [← append_assoc, truthful_concat, htruth]
    exact ⟨hlast, and_iff_left ⟨fun hs => absurd rfl (hlast _ hs).1,
      fun hs => absurd rfl (hlast _ hs).2.1, fun hs => absurd rfl (hlast _ hs).2.2⟩⟩

private theorem truthful_thenSave {ok : Bool}
    (hworking : ∀ s ∈ storedStatus history, s.Working) (h : ∀ s, .save s ∈ calls → s.Working) :
    Truthful count (history ++ (thenSave calls ok status).take cut) ↔
      Truthful count history ∧ ((thenSave calls ok status).length ≤ cut → ok →
        TellsTruth count (history ++ calls ++ [.save status])) := by
  have htake := (@truthful_append count _ (calls.take cut) hworking
    fun s hs => h s (mem_of_mem_take hs)).2
  rcases ok with _ | _
  · simpa [thenSave] using htake
  simp only [thenSave, if_true, length_append, length_singleton, forall_const]
  by_cases hcut : calls.length + 1 ≤ cut
  · rw [take_of_length_le (by simpa using hcut), ← append_assoc, truthful_concat,
      (truthful_append hworking h).2]
    simp [hcut]
  · rw [take_append_of_le_length (by omega), htake]
    simp [hcut]

private theorem tellsTruth_rolledBack (h : commitAnswers calls = []) :
    TellsTruth count (history ++ calls ++ [.save .rolledBack]) ↔
      ∀ p, (p, true) ∉ commitAnswers history := by
  simp_all [TellsTruth, storedStatus, commitAnswers]

private theorem tellsTruth_final
    (h : commitAnswers calls = (commitPhase a 2 (range count)).1) :
    TellsTruth count (history ++ calls ++
      [.save (finalStatus (range count) (commitPhase a 2 (range count)).2)]) ↔
      CommitsSafe count history a := by
  have hcommit : ∀ p, (p, true) ∈ (commitPhase a 2 (range count)).1 ↔ p < count ∧ a.commits 2 p :=
    fun p => by simpa using (@mem_commitPhase a p 2 (range count) true).1
  have hstored : ∀ s, storedStatus (history ++ calls ++ [.save s]) = some s := by
    simp [storedStatus]
  have hanswers : ∀ s, commitAnswers (history ++ calls ++ [.save s]) =
      commitAnswers history ++ (commitPhase a 2 (range count)).1 := by
    simp [← h, commitAnswers]
  rw [finalStatus_commitPhase, TellsTruth, CommitsSafe, hanswers]
  simp only [hstored, mem_append, hcommit]
  split_ifs with hall hany
  · simp +contextual [hall]
  · -- Some commit now, so the status is true if another one has failed all along.
    obtain ⟨q, hq, hcommits⟩ := hany
    constructor
    · rintro ⟨-, -, hmixed⟩ -
      obtain ⟨-, p, hp, hno⟩ := hmixed rfl
      exact ⟨⟨p, hp, fun h => hno (.inr ⟨hp, h⟩), fun h => hno (.inl h)⟩,
        fun hnone => absurd hcommits (hnone q hq)⟩
    · intro hsafe
      obtain ⟨⟨p, hp, hfails, hold⟩, -⟩ := hsafe (by simpa using hall)
      refine ⟨by simp, by simp, fun _ => ⟨⟨q, hq, .inr ⟨hq, hcommits⟩⟩, p, hp, ?_⟩⟩
      rintro (h | ⟨-, h⟩)
      exacts [hold h, hfails h]
  · -- None commits now, so the status is true if none has before.
    constructor
    · rintro ⟨-, hrolledBack, -⟩ ⟨p, hp, hfails⟩
      have hold : ∀ p, (p, true) ∉ commitAnswers history := fun p h => hrolledBack rfl p (.inl h)
      exact ⟨⟨p, hp, hfails, hold p⟩, fun _ => hold⟩
    · intro hsafe
      have hnone : ∀ p < count, ¬a.commits 2 p := fun p hp h => hany ⟨p, hp, h⟩
      have hold := (hsafe (by simpa using hall)).2 hnone
      refine ⟨by simp, fun _ p => ?_, by simp⟩
      rintro (h | ⟨hp, h⟩)
      exacts [hold p h, hnone p hp h]

private theorem truthful_recover (r : Attempt) :
    Truthful count (history ++ (recover count r.answers (storedStatus history)).take r.cut) ↔
      Truthful count history ∧ RecoverySafe count history r := by
  unfold RecoverySafe
  rcases hstatus : storedStatus history with _ | status
  · simp [recover]
  cases status with
  | committed | rolledBack | mixed | unknown => simp [recover]
  | preparing | prepared | rollingBack =>
    simp only [recover]
    rw [truthful_thenSave (by simp [hstatus]) (by simp),
      tellsTruth_rolledBack (by simp [commitAnswers])]
    simp [rollbackPhase]
  | committing =>
    simp only [recover]
    split_ifs with hfinal
    · have hsafe : CommitsSafe count history r.answers := by
        rintro ⟨p, hp, hno⟩
        rw [finalStatus_commitPhase, if_neg fun h => hno (h p hp)] at hfinal
        split at hfinal <;> cases hfinal
      rw [truthful_thenSave (by simp [hstatus]) (by simp),
        tellsTruth_final (by simp [commitAnswers])]
      simp [hsafe]
    · rw [truthful_thenSave (by simp [hstatus]) (by simp),
        tellsTruth_final (by simp [commitAnswers])]
      simp [rollbackPhase]

private theorem truthful_execute : Truthful count ((execute count a).take cut) := by
  have hfinish : ∀ {calls status}, (∀ s, .save s ∈ calls → s.Working) →
      TellsTruth count ([] ++ calls ++ [.save status]) →
        Truthful count ((thenSave calls true status).take cut) := by
    intro calls status hcalls h
    have hstart : Truthful count [] := fun moment hmoment => by
      simp [prefix_nil.1 hmoment, TellsTruth, storedStatus]
    exact (truthful_thenSave (by simp [storedStatus]) hcalls).2 ⟨hstart, fun _ _ => h⟩
  have hsafe : CommitsSafe count [] a := by simp +contextual [CommitsSafe, commitAnswers]
  simp only [execute]
  split
  · exact hfinish (by split_ifs <;> simp +contextual [or_imp])
      ((tellsTruth_final (by split_ifs <;> simp [commitAnswers])).2 hsafe)
  · exact hfinish (by simp +contextual [or_imp])
      ((tellsTruth_rolledBack (by simp [commitAnswers])).2 (by simp [commitAnswers]))

private theorem askedOnce_execute :
    AskedOnce (commitAnswers ((execute count a).take cut)) := by
  have hcommit := @askedOnce_commitPhase a 2 _ (nodup_range (n := count))
  have hall : AskedOnce (commitAnswers (execute count a)) := by
    simp only [execute, thenSave]
    split_ifs <;> simp_all [commitAnswers, AskedOnce]
  exact hall.sublist ((take_sublist _ _).filterMap _)

end Status

/-- The report is true and each participant is asked once exactly if every recovery is safe. -/
theorem runHistory_truthful_iff (count : Nat) (first : Attempt) (recoveries : List Attempt) :
    Truthful count (runHistory count first recoveries) ∧
        AskedOnce (commitAnswers ((execute count first.answers).take first.cut)) ↔
      ∀ before r, before ++ [r] <+: recoveries →
        RecoverySafe count (runHistory count first before) r := by
  rw [and_iff_left askedOnce_execute]
  induction recoveries using reverseRecOn with
  | nil => simpa [runHistory] using truthful_execute
  | append_singleton recoveries last ih =>
    have hrun : runHistory count first (recoveries ++ [last]) = runHistory count first recoveries ++
        (recover count last.answers (storedStatus (runHistory count first recoveries))).take
          last.cut := by
      simp [runHistory]
    rw [hrun, truthful_recover, ih]
    simp [prefix_concat_iff, or_imp, forall_and, and_comm]

/-- The first participant commits, the second one refuses, and the log still says `rolled_back`
after a crash behind `rolling_back` and a recovery. -/
theorem runHistory_forgets_commit :
    let first : Attempt := ⟨⟨fun _ => true, fun _ p => p = 0, fun _ => true⟩, 11⟩
    let history := runHistory 2 first [⟨⟨fun _ => true, fun _ _ => true, fun _ => true⟩, 3⟩]
    storedStatus history = some .rolledBack ∧ (0, true) ∈ commitAnswers history ∧
      ¬Truthful 2 history := by
  intro first history
  have hstored : storedStatus history = some .rolledBack ∧ (0, true) ∈ commitAnswers history := by
    decide
  exact ⟨hstored.1, hstored.2, fun h => (h history prefix_rfl).2.1 hstored.1 0 hstored.2⟩

end DbxSpec.Query
