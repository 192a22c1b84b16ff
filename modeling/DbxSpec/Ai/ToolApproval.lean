import DbxSpec.Base.Text

/-!
# Approvals of agent tool calls

`tool_approval.rs`. A registered approval lives in three places: the entry of the registry,
the `oneshot` channel and the handle that waits. Identifiers are fresh, so the three are kept
together under the approval's identifier, and a schedule is the list of what happened, step
by step: calls of `register_tool_approval` and `resolve_tool_approval`, the polls of `wait`,
and the two moments in which a wait or an abandoned handle gives up its receiver and its
entry.
-/

namespace DbxSpec.Ai

open Base List

/-- `ToolApprovalWait`: how a wait for approval ended. -/
inductive ToolApprovalWait
  | approved
  | denied
  | timedOut
  | cancelled
  deriving DecidableEq

/-- A `oneshot` channel: the value sent, and which of its ends still exist. -/
structure Oneshot where
  value : Option Bool
  sender : Bool
  receiver : Bool

/-- `Sender::send` uses the sender up; without a receiver the value is handed back. -/
def Oneshot.send (channel : Oneshot) (value : Bool) : Oneshot × Bool :=
  if channel.receiver then ({ channel with value := some value, sender := false }, true)
  else ({ channel with sender := false }, false)

/-- Polling the receiver: pending, the value, or the error of a dropped sender. -/
def Oneshot.poll (channel : Oneshot) : Option (Option Bool) :=
  match channel.value with
  | some value => some (some value)
  | none => if channel.sender then none else some none

/-- How far the handle `PendingToolApproval` is. A wait that has decided first drops the
futures of its `select!`, and with them the receiver, then itself; a wait whose future is
dropped goes the same way without a decision. -/
inductive Phase
  | unregistered
  | held
  | waiting
  | decided (outcome : ToolApprovalWait)
  | released (outcome : Option ToolApprovalWait)
  | ended (outcome : Option ToolApprovalWait)

/-- How the wait ended. -/
def Phase.outcome : Phase → Option ToolApprovalWait
  | decided outcome => some outcome
  | released outcome | ended outcome => outcome
  | _ => none

/-- What exists under one identifier: the session of the entry in `pending_approvals`, whose
responder is the sender of the channel, the channel and the handle. -/
structure Approval where
  pending : Option Text
  channel : Oneshot
  phase : Phase

/-- What can happen to an approval. -/
inductive Action
  | register (sessionId : Text)
  | resolve (sessionId : Text) (approved : Bool)
  | wait
  | poll (notified seen elapsed : Bool)
  | release
  | drop
  deriving DecidableEq

/-- What an action returns. -/
inductive Result
  | done
  | answered (accepted : Bool)
  | returned (outcome : ToolApprovalWait)
  deriving DecidableEq

namespace Approval

/-- No approval has been asked for. -/
def unregistered : Approval := ⟨none, ⟨none, false, false⟩, .unregistered⟩

/-- `register_tool_approval`. -/
def registerToolApproval (sessionId : Text) : Approval :=
  ⟨some sessionId, ⟨none, true, true⟩, .held⟩

/-- `resolve_tool_approval`; the registry stays locked until the value is sent. -/
def resolveToolApproval (a : Approval) (sessionId : Text) (approved : Bool) : Approval × Bool :=
  if a.pending = some sessionId then
    ({ a with pending := none, channel := (a.channel.send approved).1 },
      (a.channel.send approved).2)
  else (a, false)

/-- The biased `select!` of `wait`: the cancellation, then the answer, then the deadline. -/
def selectWait (notified : Bool) (answer : Option (Option Bool)) (elapsed : Bool) :
    Option ToolApprovalWait :=
  if notified then some .cancelled
  else match answer with
    | some (some true) => some .approved
    | some _ => some .denied
    | none => if elapsed then some .timedOut else none

/-- `Drop for PendingToolApproval`, and the receiver the handle may still hold. -/
def dropHandle (a : Approval) : Approval :=
  ⟨none, { a.channel with sender := false, receiver := false }, .ended a.phase.outcome⟩

/-- One step of a schedule; `none` where the handle cannot take it. An answer that arrives
after the poll of the receiver and before that of the timer is not `seen`. -/
def act (a : Approval) : Action → Option (Approval × Result)
  | .register sessionId => some (registerToolApproval sessionId, .done)
  | .resolve sessionId approved =>
    let (a, accepted) := a.resolveToolApproval sessionId approved
    some (a, .answered accepted)
  | .wait => match a.phase with
    | .held => some ({ a with phase := .waiting }, .done)
    | _ => none
  | .poll notified seen elapsed => match a.phase with
    | .waiting =>
      match selectWait notified (if seen then a.channel.poll else none) elapsed with
      | some outcome => some ({ a with phase := .decided outcome }, .done)
      | none => some (a, .done)
    | _ => none
  | .release => match a.phase with
    | .waiting | .decided _ =>
      some ({ a with channel.receiver := false, phase := .released a.phase.outcome }, .done)
    | _ => none
  | .drop => match a.phase with
    | .held | .released none => some (a.dropHandle, .done)
    | .released (some outcome) => some (a.dropHandle, .returned outcome)
    | _ => none

end Approval

/-- A step of a schedule: whose approval, what happened and what the call returned. -/
structure Event where
  approvalId : Text
  action : Action
  result : Result
  deriving DecidableEq

/-- The approvals of all sessions. -/
abbrev Approvals := Text → Approval

/-- An event at its approval, if it can happen there. -/
def Approvals.step (s : Approvals) (e : Event) : Option Approvals :=
  match (s e.approvalId).act e.action with
  | some (a, result) => if result = e.result then some (Function.update s e.approvalId a) else none
  | none => none

/-- The schedule `tr` from a registry without approvals; `none` when it cannot happen. -/
def run (tr : List Event) : Option Approvals :=
  tr.foldlM Approvals.step fun _ => .unregistered

/-- `Uuid::new_v4`: an approval gets an identifier that no step before it mentions. -/
def FreshIds (tr : List Event) : Prop :=
  tr.Pairwise fun e e' => ∀ sessionId,
    e'.action = .register sessionId → e.approvalId ≠ e'.approvalId

/-- The answer of a call of `resolve_tool_approval` by a session for an approval. -/
def Event.call (sessionId approvalId : Text) (e : Event) : Option Bool :=
  match e.action with
  | .resolve caller approved =>
    if e.approvalId = approvalId ∧ caller = sessionId then some approved else none
  | _ => none

/-- The first such answer. -/
def firstCall (tr : List Event) (sessionId approvalId : Text) : Option Bool :=
  tr.findSome? (Event.call sessionId approvalId)

/-- An answer to the approval that was taken. -/
def Event.accepts (approvalId : Text) (e : Event) : Bool :=
  e.approvalId = approvalId ∧ e.result = .answered true

/-- The approval was registered by the session. -/
def Registered (tr : List Event) (sessionId approvalId : Text) : Prop :=
  ⟨approvalId, .register sessionId, .done⟩ ∈ tr

/-- Approvals cannot be forged, replayed or answered late. -/
structure ApprovalSafe (tr : List Event) (id : Text) : Prop where
  approved : ∀ {before after}, tr = before ++ ⟨id, .drop, .returned .approved⟩ :: after →
    ∃ sessionId, Registered before sessionId id ∧ firstCall before sessionId id = some true
  once : tr.countP (Event.accepts id) ≤ 1
  foreign : ∀ {before after sessionId approved result},
    tr = before ++ ⟨id, .resolve sessionId approved, .answered result⟩ :: after →
    ¬ Registered before sessionId id → result = false ∧ run (before ++ after) = run tr
  late : ∀ {before after result}, tr = before ++ ⟨id, .drop, result⟩ :: after →
    ∀ {sessionId approved result},
      ⟨id, .resolve sessionId approved, .answered result⟩ ∈ after → result = false

/-! ### One approval along a schedule -/

variable {tr before after : List Event} {e : Event} {s s' : Approvals} {a b : Approval}
  {id sessionId : Text} {v : Bool} {result : Result}

/-- What the steps `tr` say about the approval `id` in the state `a`. -/
structure Tracked (tr : List Event) (id : Text) (a : Approval) : Prop where
  pending : ∀ sessionId, a.pending = some sessionId → Registered tr sessionId id ∧
    firstCall tr sessionId id = none ∧ tr.countP (Event.accepts id) = 0
  once : tr.countP (Event.accepts id) ≤ 1
  sent : ∀ v, a.channel.value = some v →
    ∃ sessionId, Registered tr sessionId id ∧ firstCall tr sessionId id = some v
  approved : a.phase.outcome = some .approved →
    ∃ sessionId, Registered tr sessionId id ∧ firstCall tr sessionId id = some true
  dropped : ∀ result, ⟨id, .drop, result⟩ ∈ tr → a.pending = none

private theorem answered_append (e : Event)
    (h : ∃ sessionId, Registered tr sessionId id ∧ firstCall tr sessionId id = some v) :
    ∃ sessionId, Registered (tr ++ [e]) sessionId id ∧
      firstCall (tr ++ [e]) sessionId id = some v := by
  obtain ⟨sessionId, hregistered, hfirst⟩ := h
  rw [firstCall] at hfirst
  exact ⟨sessionId, mem_append_left _ hregistered, by simp [firstCall, findSome?_append, hfirst]⟩

private theorem Tracked.keep (h : Tracked tr id a)
    (hcall : ∀ sessionId, b.pending = some sessionId →
      a.pending = some sessionId ∧ e.call sessionId id = none)
    (haccepts : e.accepts id = false) (hvalue : b.channel.value = a.channel.value)
    (houtcome : b.phase.outcome = some .approved →
      a.phase.outcome = some .approved ∨ a.channel.value = some true)
    (hdrop : ∀ result, e = ⟨id, .drop, result⟩ → b.pending = none) : Tracked (tr ++ [e]) id b where
  pending sessionId hb := by
    obtain ⟨ha, hnone⟩ := hcall sessionId hb
    obtain ⟨hregistered, hfirst, hcount⟩ := h.pending sessionId ha
    rw [firstCall] at hfirst
    exact ⟨mem_append_left _ hregistered, by simp [firstCall, findSome?_append, hfirst, hnone],
      by simp [countP_append, hcount, haccepts]⟩
  once := by simpa [countP_append, haccepts] using h.once
  sent v hv := answered_append e (h.sent v (hvalue ▸ hv))
  approved hb := answered_append e ((houtcome hb).elim h.approved (h.sent true))
  dropped result hmem := by
    obtain hmem | hmem := mem_append.mp hmem
    · by_contra hb
      obtain ⟨sessionId, hb⟩ := Option.ne_none_iff_exists'.mp hb
      simp [h.dropped result hmem] at hcall
      exact hcall sessionId hb
    · exact hdrop result (mem_singleton.mp hmem).symm

private theorem Tracked.register (hfresh : ∀ e ∈ tr, e.approvalId ≠ id) :
    Tracked (tr ++ [⟨id, .register sessionId, .done⟩]) id (.registerToolApproval sessionId) := by
  have hfirst (caller : Text) : tr.findSome? (Event.call caller id) = none := by
    rw [findSome?_eq_none_iff]
    intro e he
    cases haction : e.action <;> simp [Event.call, haction, hfresh e he]
  have hcount : tr.countP (Event.accepts id) = 0 :=
    countP_eq_zero.mpr fun e he => by simp [Event.accepts, hfresh e he]
  constructor
  · rintro _ ⟨⟩
    simp [Registered, firstCall, findSome?_append, hfirst, Event.call, countP_append, hcount,
      Event.accepts]
  · simp [countP_append, hcount, Event.accepts]
  · rintro _ ⟨⟩
  · rintro ⟨⟩
  · intro result hmem
    obtain hmem | hmem := mem_append.mp hmem
    · exact absurd rfl (hfresh _ hmem)
    · simp at hmem

private theorem Tracked.resolve (h : Tracked tr id a) : Tracked
    (tr ++ [⟨id, .resolve sessionId v, .answered (a.resolveToolApproval sessionId v).2⟩]) id
    (a.resolveToolApproval sessionId v).1 := by
  rw [Approval.resolveToolApproval]
  split
  next hpending =>
    -- the registering session's first call takes the entry, whether or not somebody waits
    obtain ⟨hregistered, hfirst, hcount⟩ := h.pending sessionId hpending
    rw [firstCall] at hfirst
    constructor
    · rintro _ ⟨⟩
    · rw [countP_append, hcount, Nat.zero_add]
      exact countP_le_length
    · intro w hvalue
      rw [Oneshot.send] at hvalue
      split at hvalue
      · cases hvalue
        exact ⟨sessionId, mem_append_left _ hregistered,
          by simp [firstCall, findSome?_append, hfirst, Event.call]⟩
      · exact answered_append _ (h.sent w hvalue)
    · exact fun houtcome => answered_append _ (h.approved houtcome)
    · exact fun _ _ => rfl
  next hpending =>
    refine h.keep (fun owner howner => ⟨howner, ?_⟩) (by simp [Event.accepts]) rfl .inl (by simp)
    have hother : sessionId ≠ owner := fun heq => hpending (heq ▸ howner)
    simp [Event.call, hother]

private theorem value_of_selectWait {channel : Oneshot} {notified seen elapsed : Bool}
    (h : Approval.selectWait notified (if seen then channel.poll else none) elapsed =
      some .approved) : channel.value = some true := by
  cases hvalue : channel.value with
  | none | some v => grind [Approval.selectWait, Oneshot.poll]

private theorem Tracked.act {action : Action} (h : Tracked tr id a)
    (hfresh : ∀ sessionId, action = .register sessionId → ∀ e ∈ tr, e.approvalId ≠ id)
    (hact : a.act action = some (b, result)) : Tracked (tr ++ [⟨id, action, result⟩]) id b := by
  cases action with
  | register sessionId =>
    cases hact
    exact .register (hfresh sessionId rfl)
  | resolve sessionId approved =>
    cases hact
    exact h.resolve
  | wait =>
    cases hphase : a.phase <;> simp only [Approval.act, hphase, reduceCtorEq] at hact
    cases hact
    exact h.keep (by simp [Event.call]) (by simp [Event.accepts]) rfl nofun nofun
  | poll notified seen elapsed =>
    cases hphase : a.phase <;> simp only [Approval.act, hphase, reduceCtorEq] at hact
    split at hact
    next outcome hselect =>
      cases hact
      refine h.keep (by simp [Event.call]) (by simp [Event.accepts]) rfl (fun houtcome => .inr ?_)
        nofun
      cases houtcome
      exact value_of_selectWait hselect
    next =>
      cases hact
      exact h.keep (by simp [Event.call]) (by simp [Event.accepts]) rfl .inl nofun
  | release =>
    cases hphase : a.phase <;> simp only [Approval.act, hphase, reduceCtorEq] at hact
    all_goals
      cases hact
      exact h.keep (by simp [Event.call]) (by simp [Event.accepts]) rfl (hphase ▸ .inl) nofun
  | drop =>
    have hb : b = a.dropHandle ∧ result ≠ .answered true := by
      rw [Approval.act] at hact
      split at hact <;> cases hact <;> simp
    obtain ⟨rfl, hresult⟩ := hb
    exact h.keep nofun (by simp [Event.accepts, hresult]) rfl .inl fun _ _ => rfl

private theorem run_append (before after : List Event) :
    run (before ++ after) = (run before).bind (after.foldlM Approvals.step ·) :=
  foldlM_append

private theorem exists_step (h : run (before ++ e :: after) = some s) :
    ∃ s₀ a, run before = some s₀ ∧
    (s₀ e.approvalId).act e.action = some (a, e.result) ∧
    after.foldlM Approvals.step (Function.update s₀ e.approvalId a) = some s := by
  simp only [run_append, foldlM_cons, Option.bind_eq_bind, Option.bind_eq_some_iff] at h
  obtain ⟨s₀, hs₀, s₁, hstep, h⟩ := h
  rw [Approvals.step] at hstep
  split at hstep
  next a result hact =>
    obtain ⟨rfl, ⟨⟩⟩ := Option.ite_none_right_eq_some.mp hstep
    exact ⟨s₀, a, hs₀, hact, h⟩
  next => cases hstep

private theorem tracked_run (hrun : run tr = some s) (hfresh : FreshIds tr) (id : Text) :
    Tracked tr id (s id) := by
  induction tr using reverseRecOn generalizing s with
  | nil =>
    cases hrun
    exact ⟨nofun, by simp, nofun, nofun, nofun⟩
  | append_singleton tr e ih =>
    obtain ⟨s₀, a, hs₀, hact, ⟨⟩⟩ := exists_step hrun
    obtain ⟨hpast, -, hfresh⟩ := pairwise_append.mp hfresh
    have h := ih hs₀ hpast
    by_cases hid : e.approvalId = id
    · subst hid
      rw [Function.update_self]
      exact h.act (fun sessionId haction e' he' => hfresh e' he' e (mem_singleton_self e) _ haction)
        hact
    · rw [Function.update_of_ne (Ne.symm hid)]
      refine h.keep (fun owner howner => ⟨howner, ?_⟩) (by simp [Event.accepts, hid]) rfl .inl
        (fun _ heq => absurd (congrArg _ heq) hid)
      cases haction : e.action <;> simp [Event.call, haction, hid]

/-- Every schedule that can happen, over any number of sessions and approvals. -/
theorem toolApproval_safe (hrun : (run tr).isSome) (hfresh : FreshIds tr) (id : Text) :
    ApprovalSafe tr id := by
  obtain ⟨s, hrun⟩ := Option.isSome_iff_exists.mp hrun
  have hstep {before after : List Event} {e : Event} (htr : tr = before ++ e :: after) :
      ∃ s₀ a, (s₀ e.approvalId).act e.action = some (a, e.result) ∧
        Tracked before e.approvalId (s₀ e.approvalId) ∧ run before = some s₀ ∧
        after.foldlM Approvals.step (Function.update s₀ e.approvalId a) = some s := by
    subst htr
    obtain ⟨s₀, a, hs₀, hact, h⟩ := exists_step hrun
    exact ⟨s₀, a, hact, tracked_run hs₀ (pairwise_append.mp hfresh).1 _, hs₀, h⟩
  constructor
  · intro before after htr
    obtain ⟨s₀, a, hact, h, -⟩ := hstep htr
    apply h.approved
    dsimp only [Approval.act] at hact
    split at hact <;> cases hact
    simp [*, Phase.outcome]
  · exact (tracked_run hrun hfresh id).once
  · intro before after sessionId approved result htr hforeign
    obtain ⟨s₀, a, hact, h, hs₀, hafter⟩ := hstep htr
    have hpending : (s₀ id).pending ≠ some sessionId := fun hpending =>
      hforeign (h.pending sessionId hpending).1
    simp only [Approval.act, Approval.resolveToolApproval, if_neg hpending] at hact
    cases hact
    rw [Function.update_eq_self] at hafter
    rw [hrun, run_append, hs₀, Option.bind_some, hafter]
    exact ⟨rfl, rfl⟩
  · intro before after result htr sessionId approved accepted hmem
    obtain ⟨between, after, rfl⟩ := append_of_mem hmem
    have hsplit : tr = (before ++ ⟨id, .drop, result⟩ :: between) ++
        ⟨id, .resolve sessionId approved, .answered accepted⟩ :: after := by simp [htr]
    obtain ⟨s₀, a, hact, h, -⟩ := hstep hsplit
    simp [Approval.act, Approval.resolveToolApproval, h.dropped result (by simp)] at hact
    exact hact.2

/-- An intruder asks, the owner approves while nobody waits, and an answer comes too late. -/
theorem toolApproval_safe_late : ApprovalSafe
    [⟨"1", .register "owner", .done⟩, ⟨"1", .resolve "intruder" true, .answered false⟩,
      ⟨"1", .resolve "owner" true, .answered true⟩, ⟨"1", .wait, .done⟩,
      ⟨"1", .poll false true true, .done⟩, ⟨"1", .release, .done⟩,
      ⟨"1", .drop, .returned .approved⟩, ⟨"1", .resolve "owner" false, .answered false⟩] "1" :=
  toolApproval_safe (by decide) (by simp [FreshIds]) "1"

end DbxSpec.Ai
