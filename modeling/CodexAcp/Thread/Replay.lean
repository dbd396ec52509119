import CodexAcp.Thread.EventEffect

/-!
# Live and replayed events

The same events reach an actor's session state on two ways: live, one by one,
each routed by the id of its submission, and replayed as the history of a
thread, where an event has no submission any more but the turn it names. Both
fold the same updates into the state; they differ in what ends the wait for user
input. Live, an error ends the wait of its own submission; replayed, of any. Live,
an abort that names no turn ends the wait of its submission; replayed, none.

> `live_eq_replayed`: handled live and replayed, events leave the same state but
> for the pending user input, and the same state altogether when no error, end of
> the session or abort without a turn comes between a question and the end of its
> turn in the way that tells the two apart.
> `replay_forgets_question`: an error of another turn, between a question and its
> answer.
-/

namespace CodexAcp.Thread

open CodexAcp.Lib CodexAcp.Protocol CodexAcp.Boundary ThreadActor

/-! ## The two folds -/

/-- Handle events live, one after the other. -/
def handleEvents (codex : Codex) (events : List Event) (a : ThreadActor) : ThreadActor :=
  events.foldl (fun a event => a.handleEvent codex event) a

/-- Replay the events as the history of a thread. -/
def replayEvents (codex : Codex) (events : List Event) (a : ThreadActor) : ThreadActor :=
  a.handleReplayHistory codex (events.map fun event => .eventMsg event.msg)

/-- The turn an event message names. -/
def namedTurn : EventMsg → Option String
  | .turnStarted event => some event.turnId
  | .turnComplete event => some event.turnId
  | .turnAborted event => event.turnId
  | .requestUserInput event => some event.turnId
  | .execApprovalRequest event => some event.turnId
  | .applyPatchApprovalRequest event => some event.turnId
  | _ => none

/-- The event's id is the id of its turn. -/
def HasTurnId (event : Event) : Prop := ∀ turn, namedTurn event.msg = some turn → turn = event.id

/-- An event ends a pending wait for user input live exactly when it does replayed:
an error and the end of the session when the wait is the event's own, and an
abort without a turn when it is not. -/
def endsWaitAlike (s : ActorState) (event : Event) : Bool :=
  match event.msg with
  | .error _ | .shutdownComplete =>
    s.pendingUserInput.isNone || s.pendingSubmissionId = some event.id
  | .turnAborted ⟨none⟩ => s.pendingSubmissionId ≠ some event.id
  | _ => true

/-- The session state, but for the question it waits for. -/
def withoutQuestion (s : ActorState) : ActorState := s.clearPendingUserInput

/-! ## One event -/

/-- What the live plan of an event does to the state, its updates applied. -/
def liveAction (event : Event) (s : ActorState) : ActorState :=
  match (planActorEvent event.msg).action with
  | .registerPendingUserInput request =>
    s.setPendingUserInput (PendingUserInputRequest.fromEvent event.id request)
  | .routeToSubmission .submission _ => s.clearPendingUserInputForSubmission event.id
  | .routeToSubmission .none _ => s

/-- What the replay plan of an event does to the state, its updates applied. -/
def replayAction (msg : EventMsg) (s : ActorState) : ActorState :=
  match routeReplayEventAction msg with
  | .registerPendingUserInput turnId event =>
    s.setPendingUserInput (PendingUserInputRequest.fromEvent turnId event)
  | .clearPendingUserInputForSubmission turnId => s.clearPendingUserInputForSubmission turnId
  | .clearPendingUserInput => s.clearPendingUserInput
  | .effect _ | .ignore => s

section OneEvent

variable {codex : Codex} {a : ThreadActor}

theorem onSubmission_state (id : String) (f : InSubmission → InSubmission) (a : ThreadActor) :
    (a.onSubmission id f).state = a.state := by
  unfold onSubmission
  cases a.submissions.lookup id <;> rfl

theorem maybeAutoApprove_state (approval : Option ActorAutoApproval) (a : ThreadActor) :
    (a.maybeAutoApprovePermissionRequest codex approval).2.state = a.state := by
  unfold maybeAutoApprovePermissionRequest
  split
  · rfl
  split
  · rfl
  · rfl

/-- An event approved without asking ends no wait. -/
theorem routeActorEvent_clear {msg : EventMsg} {clear : ActorPendingUserInputClear}
    {approval : ActorAutoApproval}
    (h : routeActorEvent msg = .routeToSubmission clear (some approval)) : clear = .none := by
  cases msg <;> cases h <;> rfl

/-- Only a goal update carries a goal. -/
theorem goalSnapshot_eq {msg : EventMsg} {goal : ThreadGoal}
    (h : (planActorEvent msg).goalSnapshot = some goal) : msg = .threadGoalUpdated ⟨goal⟩ := by
  obtain ⟨update, hmem, hgoal⟩ := List.exists_of_findSome?_eq_some h
  have hupdate : update = .goalSnapshot goal := by
    cases update <;> cases hgoal
    rfl
  subst hupdate
  cases msg
  case threadGoalUpdated event =>
    rw [show actorStateUpdates (.threadGoalUpdated event) = [.goalSnapshot event.goal] from rfl] at hmem
    cases List.mem_singleton.mp hmem
    rfl
  case collabAgentSpawnEnd event =>
    dsimp only [actorStateUpdates] at hmem
    split at hmem <;> simp at hmem
  case collabWaitingEnd event =>
    dsimp only [actorStateUpdates] at hmem
    split at hmem <;> simp at hmem
  all_goals simp [actorStateUpdates] at hmem

/-- A goal the state has already is no update, and ends no wait. -/
theorem goalSnapshot_current {event : Event} {s : ActorState}
    (h : (planActorEvent event.msg).goalSnapshot.any s.isCurrentGoal = true) :
    liveAction event (s.applyEventUpdates (actorStateUpdates event.msg)) = s := by
  obtain ⟨id, msg⟩ := event
  cases hgoal : (planActorEvent msg).goalSnapshot with
  | none => rw [hgoal] at h; cases h
  | some goal =>
    rw [hgoal] at h
    obtain rfl := goalSnapshot_eq hgoal
    have hsame : s.currentGoal = some goal := of_decide_eq_true h
    show (s.updateGoal (some goal)).2 = s
    unfold ActorState.updateGoal
    rw [if_pos hsame]

/-- **Live**, an event applies its updates, and then asks or ends a wait. -/
theorem handleEvent_state (event : Event) (a : ThreadActor) :
    (a.handleEvent codex event).state =
      liveAction event (a.state.applyEventUpdates (actorStateUpdates event.msg)) := by
  unfold handleEvent
  dsimp only
  split
  next hgoal => exact (goalSnapshot_current hgoal).symm
  next =>
    generalize hb : ({ a with
      state := a.state.applyEventUpdates (planActorEvent event.msg).stateUpdates } :
        ThreadActor) = b
    have hstate : b.state = a.state.applyEventUpdates (actorStateUpdates event.msg) := by
      rw [← hb]
      rfl
    rw [← hstate]
    unfold liveAction
    cases haction : (planActorEvent event.msg).action with
    | registerPendingUserInput request => rfl
    | routeToSubmission clear approval =>
      dsimp only
      have hauto : (b.maybeAutoApprovePermissionRequest codex approval).2.state = b.state :=
        maybeAutoApprove_state approval b
      match hrun : b.maybeAutoApprovePermissionRequest codex approval with
      | (true, c) =>
        obtain ⟨_, approval', rfl, _⟩ := autoApproved_run hrun
        rw [hrun] at hauto
        -- An event approved without asking never reaches its submission, and has no wait to end.
        rw [routeActorEvent_clear haction]
        exact hauto
      | (false, c) =>
        rw [hrun] at hauto
        have hrouted := onSubmission_state event.id (InSubmission.handleEvent codex event.msg) c
        cases clear with
        | none => exact hrouted.trans hauto
        | submission =>
          show (c.onSubmission event.id _).state.clearPendingUserInputForSubmission event.id = _
          rw [hrouted, hauto]

/-- **Replayed**, an event applies the same updates. -/
theorem replayItem_state (msg : EventMsg) (a : ThreadActor) :
    (a.replayItem codex (.eventMsg msg)).state =
      replayAction msg (a.state.applyEventUpdates (actorStateUpdates msg)) := by
  show (a.replayEventPlan codex (routeReplayEventMsg msg)).state = _
  unfold replayEventPlan replayAction
  rw [show (routeReplayEventMsg msg).action = routeReplayEventAction msg from rfl]
  cases routeReplayEventAction msg <;> rfl

/-- Ending any wait is ending the wait of a submission, when no other waits. -/
theorem clear_eq {s : ActorState} {id : String}
    (h : s.pendingUserInput = none ∨ s.pendingSubmissionId = some id) :
    s.clearPendingUserInputForSubmission id = s.clearPendingUserInput := by
  unfold ActorState.clearPendingUserInputForSubmission
  rcases h with h | h
  · split
    · rfl
    · unfold ActorState.clearPendingUserInput
      rw [← h]
  · rw [if_pos h]

/-- The two plans of an event end or begin a wait alike. -/
theorem action_eq {event : Event} {s : ActorState} (hturn : HasTurnId event)
    (hends : endsWaitAlike s event = true) : liveAction event s = replayAction event.msg s := by
  obtain ⟨id, msg⟩ := event
  cases msg
  case requestUserInput request =>
    show s.setPendingUserInput (PendingUserInputRequest.fromEvent id request) =
      s.setPendingUserInput (PendingUserInputRequest.fromEvent request.turnId request)
    rw [hturn request.turnId rfl]
  case turnComplete event =>
    show s.clearPendingUserInputForSubmission id = s.clearPendingUserInputForSubmission event.turnId
    rw [hturn event.turnId rfl]
  case turnAborted event =>
    obtain ⟨turnId⟩ := event
    cases turnId with
    | some turnId =>
      show s.clearPendingUserInputForSubmission id = s.clearPendingUserInputForSubmission turnId
      rw [hturn turnId rfl]
    | none =>
      show s.clearPendingUserInputForSubmission id = s
      unfold ActorState.clearPendingUserInputForSubmission
      -- Replayed, an abort without a turn ends no wait.
      rw [if_neg (of_decide_eq_true hends)]
  case error event => exact clear_eq (by simpa [endsWaitAlike] using hends)
  case shutdownComplete => exact clear_eq (by simpa [endsWaitAlike] using hends)
  all_goals rfl

/-- But for the question, the plans of an event do nothing. -/
theorem liveAction_withoutQuestion (event : Event) (s : ActorState) :
    withoutQuestion (liveAction event s) = withoutQuestion s := by
  unfold liveAction
  cases (planActorEvent event.msg).action with
  | registerPendingUserInput request => rfl
  | routeToSubmission clear approval =>
    cases clear with
    | none => rfl
    | submission =>
      dsimp only
      unfold ActorState.clearPendingUserInputForSubmission
      split <;> rfl

theorem replayAction_withoutQuestion (msg : EventMsg) (s : ActorState) :
    withoutQuestion (replayAction msg s) = withoutQuestion s := by
  unfold replayAction
  cases routeReplayEventAction msg with
  | clearPendingUserInputForSubmission turnId =>
    dsimp only
    unfold ActorState.clearPendingUserInputForSubmission
    split <;> rfl
  | effect | ignore | registerPendingUserInput | clearPendingUserInput => rfl

/-- The updates do not look at the question. -/
theorem applyEventUpdates_withoutQuestion (s : ActorState) (updates : List ActorStateUpdate) :
    withoutQuestion (s.applyEventUpdates updates) =
      (withoutQuestion s).applyEventUpdates updates := by
  rw [ActorState.applyEventUpdates_eq, ActorState.applyEventUpdates_eq]
  rfl

/-- Whether an event ends a wait alike depends on the question alone. -/
theorem endsWaitAlike_updates (event : Event) (s : ActorState) (updates : List ActorStateUpdate) :
    endsWaitAlike (s.applyEventUpdates updates) event = endsWaitAlike s event := by
  have h := (ActorState.applyEventUpdates_sameRequests s updates).1
  unfold endsWaitAlike ActorState.pendingSubmissionId
  rw [h]

end OneEvent

/-! ## All events -/

/-- But for the question, both ways lead to the same state. -/
theorem live_eq_replayed_withoutQuestion (codex : Codex) (events : List Event)
    {a b : ThreadActor} (h : withoutQuestion a.state = withoutQuestion b.state) :
    withoutQuestion (handleEvents codex events a).state =
      withoutQuestion (replayEvents codex events b).state := by
  induction events generalizing a b with
  | nil => exact h
  | cons event events ih =>
    refine ih (b := b.replayItem codex (.eventMsg event.msg)) ?_
    rw [handleEvent_state, replayItem_state, liveAction_withoutQuestion,
      replayAction_withoutQuestion, applyEventUpdates_withoutQuestion, h,
      applyEventUpdates_withoutQuestion]

/-- With waits ended alike, both ways lead to the same state. -/
theorem live_eq_replayed_state (codex : Codex) (events : List Event) {a b : ThreadActor}
    (hturns : ∀ event ∈ events, HasTurnId event)
    (hends : Along (fun a event => some (a.handleEvent codex event))
      (fun a event _ => endsWaitAlike a.state event = true) a events)
    (h : a.state = b.state) :
    (handleEvents codex events a).state = (replayEvents codex events b).state := by
  induction events generalizing a b with
  | nil => exact h
  | cons event events ih =>
    rw [along_cons_some rfl] at hends
    refine ih (b := b.replayItem codex (.eventMsg event.msg))
      (fun e he => hturns e (List.mem_cons_of_mem _ he)) hends.2 ?_
    rw [handleEvent_state, replayItem_state, ← h]
    refine action_eq (hturns event (List.mem_cons_self ..)) ?_
    rw [endsWaitAlike_updates]
    exact hends.1

/-- **Live and replayed.** From a fresh state, events handled live and the same
events replayed leave the same usage, collaboration mode, agents and goal; and the
same pending question, when every event has the id of its turn and ends waits
alike. -/
theorem live_eq_replayed (codex : Codex) (config : Config) (models : ModelsManager)
    (events : List Event) :
    withoutQuestion (handleEvents codex events (Running.start config models).actor).state =
        withoutQuestion (replayEvents codex events (Running.start config models).actor).state ∧
      ((∀ event ∈ events, HasTurnId event) →
        Along (fun a event => some (a.handleEvent codex event))
          (fun a event _ => endsWaitAlike a.state event = true)
          (Running.start config models).actor events →
        (handleEvents codex events (Running.start config models).actor).state =
          (replayEvents codex events (Running.start config models).actor).state) :=
  ⟨live_eq_replayed_withoutQuestion codex events rfl, fun hturns hends =>
    live_eq_replayed_state codex events hturns hends rfl⟩

/-- A question of the turn `turn`. -/
def sampleQuestion : Event :=
  ⟨"turn", .requestUserInput { callId := "call", turnId := "turn", questions := [] }⟩

/-- A question, and the end of its turn by an error. -/
theorem live_eq_replayed_question :
    (handleEvents Codex.sample [sampleQuestion, ⟨"turn", .error ⟨"failed", none⟩⟩]
        (Running.start Config.sample ModelsManager.sample).actor).state =
      (replayEvents Codex.sample [sampleQuestion, ⟨"turn", .error ⟨"failed", none⟩⟩]
        (Running.start Config.sample ModelsManager.sample).actor).state := by
  refine (live_eq_replayed Codex.sample Config.sample ModelsManager.sample
    [sampleQuestion, ⟨"turn", .error ⟨"failed", none⟩⟩]).2 ?_ (by decide +kernel)
  intro event hevent turn hturn
  simp only [List.mem_cons, List.not_mem_nil, or_false] at hevent
  rcases hevent with rfl | rfl
  · cases hturn; rfl
  · cases hturn

/-- **An error of another turn** ends the wait for user input in a replayed history,
and not live. -/
theorem replay_forgets_question :
    (∀ event ∈ [sampleQuestion, ⟨"other", .error ⟨"failed", none⟩⟩], HasTurnId event) ∧
    (handleEvents Codex.sample [sampleQuestion, ⟨"other", .error ⟨"failed", none⟩⟩]
        (Running.start Config.sample ModelsManager.sample).actor).state ≠
      (replayEvents Codex.sample [sampleQuestion, ⟨"other", .error ⟨"failed", none⟩⟩]
        (Running.start Config.sample ModelsManager.sample).actor).state := by
  constructor
  · intro event hevent turn hturn
    simp only [List.mem_cons, List.not_mem_nil, or_false] at hevent
    rcases hevent with rfl | rfl
    · cases hturn; rfl
    · cases hturn
  · intro h
    exact absurd (congrArg (fun s : ActorState => s.pendingUserInput.isSome) h) (by decide +kernel)

end CodexAcp.Thread
