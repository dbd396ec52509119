import CodexAcp.Lib.Run
import CodexAcp.Thread.Replay
import CodexAcp.Thread.SettingsEffect
import CodexAcp.Thread.StateEffect
import CodexAcp.UserInput

/-!
# Loading a session that is live

A session that is loaded while its actor is running gets the history of its thread
replayed into that actor. The history is made of the events the actor has handled
already, so it is a log played again into the state it made (`Lib.Journal`). What the
actor remembers and no event wrote is overwritten: a question that was answered is
asked again, a mode that was switched and a goal that was set go back to the last
ones an event reported.

`Logged` is an actor with the log of the events it handled, and `Reloads` says that
replaying the log leaves the session state as it is.

> `reload_leaves_state_iff`: along every run, reloading leaves the state as it is
> after every step exactly when every step keeps to the log (`KeepsToLog`).
> `reload_asks_again`: a question, its answer, and a reload.
> `replayHistory_twice`: a history replayed twice leaves the state that it leaves
> replayed once, whatever the state before.
-/

namespace CodexAcp.Thread

open CodexAcp.Lib CodexAcp.Protocol CodexAcp.Boundary ThreadActor

/-! ## Actors with their log -/

/-- A running actor and the log of the events it has handled. -/
structure Logged where
  running : Running
  log : List EventMsg := []

namespace Logged

/-- A live step: an event is logged as it is handled, and no history is replayed. -/
def step (codex : Codex) (s : Logged) : Label → Option Logged
  -- The replay is what a load does; between loads there is none.
  | .message (.replayHistory _) => none
  | .event event =>
    (s.running.step codex (.event event)).map fun running => ⟨running, s.log ++ [event.msg]⟩
  | l => (s.running.step codex l).map fun running => ⟨running, s.log⟩

/-- The actor after its log was replayed into it. -/
def reload (codex : Codex) (s : Logged) : ThreadActor :=
  s.running.actor.handleReplayHistory codex (s.log.map .eventMsg)

/-- Reloading leaves the session state as it is. -/
def Reloads (codex : Codex) (s : Logged) : Prop :=
  (s.reload codex).state = s.running.actor.state

end Logged

/-- An event begins or ends the wait for user input alike, handled live and replayed:
live by its id, replayed by the turn it names, if it names one. -/
def WaitsAlike (pending : Option PendingUserInputRequest) (event : Event) : Prop :=
  match event.msg with
  | .requestUserInput request => request.turnId = event.id
  | .turnComplete ended =>
    ∀ p, pending = some p → (p.submissionId = event.id ↔ p.submissionId = ended.turnId)
  | .turnAborted ⟨some turnId⟩ =>
    ∀ p, pending = some p → (p.submissionId = event.id ↔ p.submissionId = turnId)
  | .turnAborted ⟨none⟩ => ∀ p, pending = some p → p.submissionId ≠ event.id
  | .error _ | .shutdownComplete => ∀ p, pending = some p → p.submissionId = event.id
  | _ => True

/-- Before a step: an event waits alike; a message answers no question, switches to no
other mode once a turn was logged, and stores no other goal once a goal was. -/
def KeepsToLog (codex : Codex) (s : Logged) : Label → Prop
  | .event event => WaitsAlike s.running.actor.state.pendingUserInput event
  | .message m =>
    answersQuestion codex s.running.actor m = false ∧
      (s.log.any startsTurn = true → ∀ kind, switchedMode codex s.running.actor m = some kind →
        s.running.actor.state.activeCollaborationModeKind = some kind) ∧
      (s.log.any (fun msg => (reportedGoal msg).isSome) = true →
        ∀ goal, controlledGoal codex s.running.actor m = some goal →
          s.running.actor.state.currentGoal = goal)
  | _ => True

/-! ## Events, component by component -/

/-- What an event handled live makes of the question. -/
def liveQuestion (event : Event) (pending : Option PendingUserInputRequest) :
    Option PendingUserInputRequest :=
  match routeActorEvent event.msg with
  | .registerPendingUserInput request => some (PendingUserInputRequest.fromEvent event.id request)
  | .routeToSubmission .submission _ =>
    if pending.map (·.submissionId) = some event.id then none else pending
  | .routeToSubmission .none _ => pending

/-- What a replayed event makes of the question. -/
def replayedQuestion (pending : Option PendingUserInputRequest) (msg : EventMsg) :
    Option PendingUserInputRequest :=
  match routeReplayEventAction msg with
  | .registerPendingUserInput turnId request =>
    some (PendingUserInputRequest.fromEvent turnId request)
  | .clearPendingUserInputForSubmission turnId =>
    if pending.map (·.submissionId) = some turnId then none else pending
  | .clearPendingUserInput => none
  | .effect _ | .ignore => pending

/-- The updates of a log of events. -/
def loggedUpdates (log : List EventMsg) : List ActorStateUpdate := log.flatMap actorStateUpdates

theorem clearForSubmission_eq (s : ActorState) (id : String) :
    s.clearPendingUserInputForSubmission id =
      { s with pendingUserInput :=
        if s.pendingUserInput.map (·.submissionId) = some id then none
        else s.pendingUserInput } := by
  unfold ActorState.clearPendingUserInputForSubmission ActorState.pendingSubmissionId
  split <;> rfl

theorem liveAction_eq (event : Event) (s : ActorState) :
    liveAction event s = { s with pendingUserInput := liveQuestion event s.pendingUserInput } := by
  unfold liveAction liveQuestion
  rw [show (planActorEvent event.msg).action = routeActorEvent event.msg from rfl]
  cases routeActorEvent event.msg with
  | registerPendingUserInput request => rfl
  | routeToSubmission clear approval =>
    cases clear with
    | none => rfl
    | submission => exact clearForSubmission_eq s event.id

theorem replayAction_eq (msg : EventMsg) (s : ActorState) :
    replayAction msg s =
      { s with pendingUserInput := replayedQuestion s.pendingUserInput msg } := by
  unfold replayAction replayedQuestion
  cases routeReplayEventAction msg with
  | clearPendingUserInputForSubmission turnId => exact clearForSubmission_eq s turnId
  | effect | ignore | registerPendingUserInput | clearPendingUserInput => rfl

/-- The events of a history; its other items leave the session state alone. -/
def historyEvents (history : List RolloutItem) : List EventMsg :=
  history.filterMap fun
    | .eventMsg msg => some msg
    | _ => none

/-- **A replayed history** applies the updates of its events, and moves the question along. -/
theorem handleReplayHistory_state (codex : Codex) (history : List RolloutItem) (a : ThreadActor) :
    (a.handleReplayHistory codex history).state =
      { a.state.applyEventUpdates (loggedUpdates (historyEvents history)) with
        pendingUserInput :=
          (historyEvents history).foldl replayedQuestion a.state.pendingUserInput } := by
  unfold handleReplayHistory loggedUpdates
  induction history generalizing a with
  | nil => rfl
  | cons item history ih =>
    cases item with
    | eventMsg msg =>
      -- Updates and question do not meet, so the updates of the head event move past the
      -- questions of the rest.
      rw [List.foldl_cons, ih, replayItem_state, replayAction_eq,
        show historyEvents (.eventMsg msg :: history) = msg :: historyEvents history from rfl,
        List.flatMap_cons, ActorState.applyEventUpdates_eq, ActorState.applyEventUpdates_eq,
        ActorState.applyEventUpdates_eq, List.foldl_append, List.foldl_append, List.foldl_append,
        List.flatMap_append, List.foldl_append]
      rfl
    | responseItem item =>
      have hstate : (a.replayItem codex (.responseItem item)).state = a.state := by
        show (a.replayResponseItem codex _).state = a.state
        rw [replayResponseItem_eq]
      rw [List.foldl_cons, ih, hstate]
      rfl
    | stateOnly => exact ih a

theorem historyEvents_log (log : List EventMsg) : historyEvents (log.map .eventMsg) = log := by
  unfold historyEvents
  rw [List.filterMap_map]
  exact List.filterMap_some

/-- **Reloading** leaves the state as it is when it leaves every component as it is. -/
theorem reloads_iff {codex : Codex} {s : Logged} :
    s.Reloads codex ↔
      Settled (write usageWrite) (loggedUpdates s.log) s.running.actor.state.latestUsage ∧
      Settled (write modeWrite) (loggedUpdates s.log)
        s.running.actor.state.activeCollaborationModeKind ∧
      Settled (write goalWrite) (loggedUpdates s.log) s.running.actor.state.currentGoal ∧
      Settled Edit.apply ((loggedUpdates s.log).flatMap agentEdits)
        s.running.actor.state.knownCollabAgents ∧
      Settled replayedQuestion s.log s.running.actor.state.pendingUserInput := by
  unfold Logged.Reloads Logged.reload Settled
  rw [handleReplayHistory_state, historyEvents_log, ActorState.applyEventUpdates_eq]
  generalize s.running.actor.state = state
  constructor
  · intro h
    exact ⟨congrArg ActorState.latestUsage h,
      congrArg ActorState.activeCollaborationModeKind h, congrArg ActorState.currentGoal h,
      congrArg ActorState.knownCollabAgents h, congrArg ActorState.pendingUserInput h⟩
  · rintro ⟨husage, hmode, hgoal, hagents, hquestion⟩
    rw [husage, hmode, hgoal, hagents, hquestion]

/-! ## Waiting alike -/

theorem fromEvent_inj {id id' : String} {request : RequestUserInputEvent} :
    PendingUserInputRequest.fromEvent id request = PendingUserInputRequest.fromEvent id' request ↔
      id' = id := by
  unfold PendingUserInputRequest.fromEvent
  simp [eq_comm]

/-- Ending the wait of one submission or of another. -/
theorem clear_alike_iff {pending : Option PendingUserInputRequest} {id id' : String} :
    (if pending.map (·.submissionId) = some id then none else pending) =
        (if pending.map (·.submissionId) = some id' then none else pending) ↔
      ∀ p, pending = some p → (p.submissionId = id ↔ p.submissionId = id') := by
  cases pending with
  | none => simp
  | some p =>
    by_cases h : p.submissionId = id <;> by_cases h' : p.submissionId = id' <;> simp [h, h']

theorem clear_nothing_iff {pending : Option PendingUserInputRequest} {id : String} :
    (if pending.map (·.submissionId) = some id then none else pending) = pending ↔
      ∀ p, pending = some p → p.submissionId ≠ id := by
  cases pending <;> simp

theorem clear_all_iff {pending : Option PendingUserInputRequest} {id : String} :
    (if pending.map (·.submissionId) = some id then none else pending) = none ↔
      ∀ p, pending = some p → p.submissionId = id := by
  cases pending <;> simp

/-- **An event** moves the question alike, live and replayed, when it waits alike. -/
theorem waitsAlike_iff (pending : Option PendingUserInputRequest) (event : Event) :
    replayedQuestion pending event.msg = liveQuestion event pending ↔ WaitsAlike pending event := by
  obtain ⟨id, msg⟩ := event
  cases msg
  case requestUserInput request =>
    show some _ = some _ ↔ request.turnId = id
    rw [Option.some.injEq, fromEvent_inj]
    exact eq_comm
  case turnComplete ended => exact eq_comm.trans clear_alike_iff
  case turnAborted aborted =>
    obtain ⟨turnId⟩ := aborted
    cases turnId with
    | some turnId => exact eq_comm.trans clear_alike_iff
    | none => exact eq_comm.trans clear_nothing_iff
  case error => exact eq_comm.trans clear_all_iff
  case shutdownComplete => exact eq_comm.trans clear_all_iff
  all_goals exact ⟨fun _ => trivial, fun _ => rfl⟩

/-! ## What the log alone accounts for -/

/-- The events that put a question to the user. -/
def asksQuestion : EventMsg → Bool
  | .requestUserInput _ => true
  | _ => false

/-- What only events write is as the log has it: usage, the agents, and that a question
is waited for at all. -/
structure FromLog (s : Logged) : Prop where
  usage : Settled (write usageWrite) (loggedUpdates s.log) s.running.actor.state.latestUsage
  agents : s.running.actor.state.knownCollabAgents =
    ((loggedUpdates s.log).flatMap agentEdits).foldl Edit.apply ∅
  asked : s.running.actor.state.pendingUserInput = none ∨ s.log.any asksQuestion = true

theorem fromLog_start (config : Config) (models : ModelsManager) :
    FromLog ⟨.start config models, []⟩ :=
  ⟨rfl, rfl, .inl rfl⟩

theorem FromLog.settledAgents {s : Logged} (h : FromLog s) :
    Settled Edit.apply ((loggedUpdates s.log).flatMap agentEdits)
      s.running.actor.state.knownCollabAgents := by
  rw [h.agents]
  exact settled_edits _ _

/-- A question leaves no trace of the one before. -/
theorem replayedQuestion_reset {msg : EventMsg} (h : asksQuestion msg = true)
    (p p' : Option PendingUserInputRequest) : replayedQuestion p msg = replayedQuestion p' msg := by
  cases msg <;> first | rfl | cases h

/-- Without a question there is nothing to end. -/
theorem question_none (event : Event) (h : asksQuestion event.msg = false) :
    liveQuestion event none = none ∧ replayedQuestion none event.msg = none := by
  obtain ⟨id, msg⟩ := event
  cases msg
  case requestUserInput => cases h
  case turnAborted aborted =>
    obtain ⟨turnId⟩ := aborted
    cases turnId <;> exact ⟨rfl, rfl⟩
  all_goals exact ⟨rfl, rfl⟩

/-- **Questions.** After an event the log leaves the question as it is when the event
waits alike. -/
theorem question_step {log : List EventMsg} {pending : Option PendingUserInputRequest}
    (hasked : pending = none ∨ log.any asksQuestion = true)
    (h : Settled replayedQuestion log pending) (event : Event) :
    Settled replayedQuestion (log ++ [event.msg]) (liveQuestion event pending) ↔
      WaitsAlike pending event := by
  have hplayed : (log ++ [event.msg]).foldl replayedQuestion pending =
      replayedQuestion pending event.msg := by
    rw [List.foldl_append, show log.foldl replayedQuestion pending = pending from h]
    rfl
  rw [← waitsAlike_iff]
  by_cases hreset : (log ++ [event.msg]).any asksQuestion = true
  · obtain ⟨msg, hmem, hmsg⟩ := List.any_eq_true.mp hreset
    -- A question is in the log: what the log leaves does not depend on where it starts.
    rw [settled_iff_of_reset hmem (replayedQuestion_reset hmsg) pending, hplayed]
    exact eq_comm
  · -- Nothing was asked, so there is no question, before the event or after it.
    rw [List.any_append, Bool.or_eq_true, not_or] at hreset
    obtain rfl : pending = none := hasked.resolve_right hreset.1
    obtain ⟨hlive, hreplayed⟩ := question_none event (by simpa using hreset.2)
    unfold Settled
    rw [hlive, hplayed, hreplayed]

/-! ## Events -/

theorem handleEvent_components (codex : Codex) (event : Event) (a : ThreadActor) :
    (a.handleEvent codex event).state =
      { a.state.applyEventUpdates (actorStateUpdates event.msg) with
        pendingUserInput := liveQuestion event a.state.pendingUserInput } := by
  rw [handleEvent_state, liveAction_eq, ActorState.applyEventUpdates_eq]

theorem loggedUpdates_append (log : List EventMsg) (msg : EventMsg) :
    loggedUpdates (log ++ [msg]) = loggedUpdates log ++ actorStateUpdates msg := by
  unfold loggedUpdates
  rw [List.flatMap_append, List.flatMap_singleton]

/-- **Events** are logged as they are handled, and reload when they wait alike. -/
theorem event_step {codex : Codex} {s : Logged} (event : Event) (hlog : FromLog s)
    (h : s.Reloads codex) (point : LoopPoint) :
    let s' : Logged := ⟨⟨s.running.actor.handleEvent codex event, point⟩, s.log ++ [event.msg]⟩
    FromLog s' ∧ (s'.Reloads codex ↔
      WaitsAlike s.running.actor.state.pendingUserInput event) := by
  intro s'
  have hstate := handleEvent_components codex event s.running.actor
  rw [ActorState.applyEventUpdates_eq] at hstate
  replace hstate : s'.running.actor.state = _ := hstate
  have hupdates : loggedUpdates s'.log = loggedUpdates s.log ++ actorStateUpdates event.msg :=
    loggedUpdates_append s.log event.msg
  obtain ⟨_, hmode, hgoal, _, hquestion⟩ := reloads_iff.mp h
  have hlog' : FromLog s' := by
    refine ⟨?_, ?_, ?_⟩
    · rw [hstate, hupdates]
      exact settled_write_append hlog.usage _
    · rw [hstate, hupdates, List.flatMap_append, List.foldl_append, ← hlog.agents]
    · rw [hstate]
      show liveQuestion event s.running.actor.state.pendingUserInput = none ∨
        (s.log ++ [event.msg]).any asksQuestion = true
      rw [List.any_append, Bool.or_eq_true]
      by_cases hask : asksQuestion event.msg = true
      · exact .inr (.inr (by simpa using hask))
      · rcases hlog.asked with hnone | hasked
        · rw [hnone]
          exact .inl (question_none event (by simpa using hask)).1
        · exact .inr (.inl hasked)
  refine ⟨hlog', ?_⟩
  have hstep := question_step hlog.asked hquestion event
  rw [reloads_iff, ← hstep]
  constructor
  · rintro ⟨_, _, _, _, hquestion'⟩
    rw [hstate] at hquestion'
    exact hquestion'
  · intro hquestion'
    refine ⟨hlog'.usage, ?_, ?_, hlog'.settledAgents, ?_⟩
    · rw [hstate, hupdates]
      exact settled_write_append hmode _
    · rw [hstate, hupdates]
      exact settled_write_append hgoal _
    · rw [hstate]
      exact hquestion'

/-! ## Messages -/

/-- Updates that edit the agents write no register. -/
theorem collabUpdates_write {β : Type} (w : ActorStateUpdate → Option β)
    (hspawn : ∀ update, w (.rememberCollabAgent update) = none)
    (hentries : ∀ entries, w (.rememberCollabAgentEntries entries) = none) :
    (∀ event, (actorStateUpdates (.collabAgentSpawnEnd event)).any
      (fun u => (w u).isSome) = false) ∧
    ∀ event, (actorStateUpdates (.collabWaitingEnd event)).any (fun u => (w u).isSome) = false := by
  constructor
  · intro event
    dsimp only [actorStateUpdates]
    split <;> simp [hspawn]
  · intro event
    dsimp only [actorStateUpdates]
    split <;> simp [hspawn, hentries]

/-- An event writes the mode when it starts a turn. -/
theorem actorStateUpdates_mode (msg : EventMsg) :
    ((actorStateUpdates msg).any fun u => (modeWrite u).isSome) = startsTurn msg := by
  obtain ⟨hspawn, hwaiting⟩ := collabUpdates_write modeWrite (fun _ => rfl) (fun _ => rfl)
  cases msg
  case collabAgentSpawnEnd event => exact hspawn event
  case collabWaitingEnd event => exact hwaiting event
  all_goals rfl

/-- An event writes the goal when it reports one. -/
theorem actorStateUpdates_goalWrite (msg : EventMsg) :
    ((actorStateUpdates msg).any fun u => (goalWrite u).isSome) = (reportedGoal msg).isSome := by
  obtain ⟨hspawn, hwaiting⟩ := collabUpdates_write goalWrite (fun _ => rfl) (fun _ => rfl)
  cases msg
  case collabAgentSpawnEnd event => exact hspawn event
  case collabWaitingEnd event => exact hwaiting event
  all_goals rfl

/-- The log writes the mode when it started a turn. -/
theorem logged_mode (log : List EventMsg) :
    (lastWrite modeWrite (loggedUpdates log)).isSome = log.any startsTurn := by
  rw [lastWrite_isSome, loggedUpdates, List.any_flatMap]
  exact congrArg log.any (funext actorStateUpdates_mode)

/-- The log writes the goal when it reported one. -/
theorem logged_goal (log : List EventMsg) :
    (lastWrite goalWrite (loggedUpdates log)).isSome =
      log.any fun msg => (reportedGoal msg).isSome := by
  rw [lastWrite_isSome, loggedUpdates, List.any_flatMap]
  exact congrArg log.any (funext actorStateUpdates_goalWrite)

/-- A question that was answered is not what the log leaves. -/
theorem question_kept {log : List EventMsg} {pending : Option PendingUserInputRequest}
    (hasked : pending = none ∨ log.any asksQuestion = true)
    (h : Settled replayedQuestion log pending) {answered : Bool}
    (hanswered : answered = true → pending.isSome = true) :
    Settled replayedQuestion log (if answered then none else pending) ↔ answered = false := by
  cases answered with
  | false => exact ⟨fun _ => rfl, fun _ => h⟩
  | true =>
    obtain ⟨p, rfl⟩ := Option.isSome_iff_exists.mp (hanswered rfl)
    obtain ⟨msg, hmem, hmsg⟩ := List.any_eq_true.mp (hasked.resolve_left nofun)
    rw [if_pos rfl, settled_iff_of_reset hmem (replayedQuestion_reset hmsg) (some p),
      show log.foldl replayedQuestion (some p) = some p from h]
    exact ⟨nofun, nofun⟩

theorem or_eq_right_iff {α : Type} {o b : Option α} :
    o.or b = b ↔ ∀ v, o = some v → b = some v := by
  cases o <;> simp [eq_comm]

theorem getD_eq_default_iff {α : Type} {o : Option α} {b : α} :
    o.getD b = b ↔ ∀ v, o = some v → b = v := by
  cases o <;> simp [eq_comm]

/-- **What is remembered.** A step that logs nothing and leaves usage and agents alone
reloads when mode, goal and question are as the log leaves them. -/
theorem remembered_step (codex : Codex) {s s' : Logged} {pending : Option PendingUserInputRequest}
    {mode : Option ModeKind} {goal : Option ThreadGoal} (hlog : FromLog s) (hsame : s'.log = s.log)
    (hmemory : s'.running.actor.view.memory =
      { s.running.actor.state.memory with
        pendingUserInput := pending, activeCollaborationModeKind := mode, currentGoal := goal })
    (hasked : pending = none ∨ pending = s.running.actor.state.pendingUserInput) :
    FromLog s' ∧ (s'.Reloads codex ↔
      Settled (write modeWrite) (loggedUpdates s.log) mode ∧
      Settled (write goalWrite) (loggedUpdates s.log) goal ∧
      Settled replayedQuestion s.log pending) := by
  have husage : s'.running.actor.state.latestUsage = s.running.actor.state.latestUsage :=
    (congrArg ActorState.latestUsage hmemory :)
  have hagents : s'.running.actor.state.knownCollabAgents =
      s.running.actor.state.knownCollabAgents :=
    (congrArg ActorState.knownCollabAgents hmemory :)
  have hpending : s'.running.actor.state.pendingUserInput = pending :=
    (congrArg ActorState.pendingUserInput hmemory :)
  have hmode : s'.running.actor.state.activeCollaborationModeKind = mode :=
    (congrArg ActorState.activeCollaborationModeKind hmemory :)
  have hgoal : s'.running.actor.state.currentGoal = goal :=
    (congrArg ActorState.currentGoal hmemory :)
  have hlog' : FromLog s' := by
    refine ⟨?_, ?_, ?_⟩
    · rw [husage, hsame]
      exact hlog.usage
    · rw [hagents, hsame]
      exact hlog.agents
    · rw [hpending, hsame]
      rcases hasked with rfl | rfl
      · exact .inl rfl
      · exact hlog.asked
  refine ⟨hlog', ?_⟩
  -- Usage and agents are as the log has them; the other three components are the condition.
  have husage' := hlog'.usage
  have hagents' := hlog'.settledAgents
  rw [hsame] at husage' hagents'
  rw [reloads_iff, hpending, hmode, hgoal, hsame]
  constructor
  · rintro ⟨_, hsetMode, hsetGoal, _, hquestion⟩
    exact ⟨hsetMode, hsetGoal, hquestion⟩
  · rintro ⟨hsetMode, hsetGoal, hquestion⟩
    exact ⟨husage', hsetMode, hsetGoal, hagents', hquestion⟩

/-- **Messages** leave the log behind only where they answer the question, switch the
mode or store a goal. -/
theorem message_step {codex : Codex} {s s' : Logged} {m : ThreadMessage} (hlog : FromLog s)
    (h : s.Reloads codex) (hview : s'.running.actor.view = s.running.actor.viewAfter codex m)
    (hsame : s'.log = s.log) :
    FromLog s' ∧ (s'.Reloads codex ↔ KeepsToLog codex s (.message m)) := by
  have hmemory := viewAfter_memory codex s.running.actor m
  rw [← hview] at hmemory
  obtain ⟨hlog', hreloads⟩ := remembered_step codex hlog hsame hmemory
    (by split <;> simp)
  refine ⟨hlog', ?_⟩
  obtain ⟨_, hmode, hgoal, _, hquestion⟩ := reloads_iff.mp h
  rw [hreloads, question_kept hlog.asked hquestion answersQuestion_pending,
    settled_write_other hmode, settled_write_other hgoal, logged_mode, logged_goal,
    or_eq_right_iff, getD_eq_default_iff]
  constructor
  · rintro ⟨hsetMode, hsetGoal, hanswered⟩
    exact ⟨hanswered, hsetMode, hsetGoal⟩
  · rintro ⟨hanswered, hsetMode, hsetGoal⟩
    exact ⟨hsetMode, hsetGoal, hanswered⟩

/-! ## Replaying a history twice -/

/-- An event asks its question whatever was asked before, or leaves the question alone or
ends it. -/
theorem replayedQuestion_cases (msg : EventMsg) :
    (∀ p p', replayedQuestion p msg = replayedQuestion p' msg) ∨
      ∀ p, replayedQuestion p msg = p ∨ replayedQuestion p msg = none := by
  unfold replayedQuestion
  cases routeReplayEventAction msg with
  | registerPendingUserInput turnId request => exact .inl fun _ _ => rfl
  | clearPendingUserInput => exact .inl fun _ _ => rfl
  | clearPendingUserInputForSubmission turnId =>
    refine .inr fun p => ?_
    dsimp only
    split
    · exact .inr rfl
    · exact .inl rfl
  | effect | ignore => exact .inr fun _ => .inl rfl

/-- **Replaying twice** leaves the session state as replaying once does. -/
theorem replayHistory_twice (codex : Codex) (history : List RolloutItem) (a : ThreadActor) :
    ((a.handleReplayHistory codex history).handleReplayHistory codex history).state =
      (a.handleReplayHistory codex history).state := by
  generalize hb : a.handleReplayHistory codex history = b
  have hstate : b.state = _ := hb ▸ handleReplayHistory_state codex history a
  have husage := settled_write usageWrite (loggedUpdates (historyEvents history)) a.state.latestUsage
  have hmode := settled_write modeWrite (loggedUpdates (historyEvents history))
    a.state.activeCollaborationModeKind
  have hgoal := settled_write goalWrite (loggedUpdates (historyEvents history)) a.state.currentGoal
  have hagents := settled_edits ((loggedUpdates (historyEvents history)).flatMap agentEdits)
    a.state.knownCollabAgents
  have hquestion : Settled replayedQuestion (historyEvents history) _ :=
    settled_of_reset_or_clear (fun msg _ => replayedQuestion_cases msg) a.state.pendingUserInput
  unfold Settled at husage hmode hgoal hagents hquestion
  rw [handleReplayHistory_state, ActorState.applyEventUpdates_eq, hstate,
    ActorState.applyEventUpdates_eq]
  dsimp only
  rw [husage, hmode, hgoal, hagents, hquestion]

/-! ## Steps and runs -/

/-- A step that changes nothing the session remembers and logs nothing still reloads. -/
theorem quiet_step {codex : Codex} {s s' : Logged} (hlog : FromLog s) (h : s.Reloads codex)
    (hview : s'.running.actor.view = s.running.actor.view) (hsame : s'.log = s.log) :
    FromLog s' ∧ s'.Reloads codex := by
  obtain ⟨hlog', hreloads⟩ := remembered_step codex hlog hsame
    (congrArg SessionView.memory hview) (.inr rfl)
  obtain ⟨_, hmode, hgoal, _, hquestion⟩ := reloads_iff.mp h
  exact ⟨hlog', hreloads.mpr ⟨hmode, hgoal, hquestion⟩⟩

/-- **Steps** reload when they keep to the log. -/
theorem reload_step {codex : Codex} {s s' : Logged} {l : Label} (hlog : FromLog s)
    (h : s.Reloads codex) (hstep : s.step codex l = some s') :
    FromLog s' ∧ (s'.Reloads codex ↔ KeepsToLog codex s l) := by
  -- But for events, a step is one of the actor, and the log stays.
  have hother : handlesEvents l = false →
      (s.running.step codex l).map (fun running => (⟨running, s.log⟩ : Logged)) = some s' →
      s'.running.actor.view = s.running.actor.viewAfterStep codex l ∧ s'.log = s.log := by
    intro hl hmap
    obtain ⟨running, hrunning, rfl⟩ := Option.map_eq_some_iff.mp hmap
    exact ⟨step_view hl hrunning, rfl⟩
  have hquiet : s'.running.actor.view = s.running.actor.view ∧ s'.log = s.log →
      FromLog s' ∧ (s'.Reloads codex ↔ True) := by
    rintro ⟨hview, hsame⟩
    obtain ⟨hlog', h'⟩ := quiet_step hlog h hview hsame
    exact ⟨hlog', iff_true_intro h'⟩
  cases l with
  | event event =>
    obtain ⟨running, hrunning, rfl⟩ := Option.map_eq_some_iff.mp hstep
    simp only [Running.step, Option.ite_none_right_eq_some, Option.some.injEq] at hrunning
    obtain ⟨_, rfl⟩ := hrunning
    exact event_step event hlog h _
  | message m =>
    cases m with
    | replayHistory history => cases hstep
    | load | getConfigOptions | prompt | steer | controlGoal | setMode | setConfigOption | cancel
    | shutdown | replaceClient =>
      obtain ⟨hview, hsame⟩ := hother rfl hstep
      exact message_step hlog h hview hsame
  | resolution | noResolution | wake | collect | respond | send | closeReceiver | modelsChanged =>
    exact hquiet (hother rfl hstep)

/-- **Reloading a live session** leaves its state as it is, along every run, exactly when
every step keeps to the log. -/
theorem reload_leaves_state_iff (codex : Codex) (config : Config) (models : ModelsManager)
    (ls : List Label) :
    Along (Logged.step codex) (fun _ _ s' => s'.Reloads codex) ⟨.start config models, []⟩ ls ↔
      Along (Logged.step codex) (fun s l _ => KeepsToLog codex s l) ⟨.start config models, []⟩
        ls := by
  refine along_iff_of_invariant (E := fun _ _ _ => True)
    (I := fun s => FromLog s ∧ s.Reloads codex) ?_ ls ⟨fromLog_start config models, rfl⟩
    (along_of_forall (fun _ _ _ => trivial) ls _)
  rintro s l s' ⟨hlog, h⟩ - hstep
  obtain ⟨hlog', hiff⟩ := reload_step hlog h hstep
  exact ⟨hiff, fun h' => ⟨hlog', h'⟩⟩

/-- A question that takes any text as its answer. -/
def sampleFreeText : RequestUserInputQuestion :=
  { UserInput.sampleQuestion [] with options := none }

/-- **An answered question** is asked again: a prompt runs, its turn asks the user,
a second prompt is the answer, and the session is loaded. -/
theorem reload_asks_again :
    ¬ Along (Logged.step (UserInput.inText .sample))
        (fun _ _ s' => s'.Reloads (UserInput.inText .sample))
        ⟨.start Config.sample ModelsManager.sample, []⟩
        [.message (.prompt ⟨[.text "go"]⟩), .collect, .noResolution,
          .event ⟨"submission-0",
            .requestUserInput ⟨"call", "submission-0", [sampleFreeText]⟩⟩, .collect,
          .message (.prompt ⟨[.text "yes"]⟩)] := by
  intro h
  -- States are compared by the question alone: whether the actor waits for an answer.
  have hquestion := along_mono
    (Q := fun _ _ s' => (s'.reload (UserInput.inText .sample)).state.pendingUserInput.isSome =
      s'.running.actor.state.pendingUserInput.isSome)
    (fun _ _ _ _ hstate => congrArg (fun s : ActorState => s.pendingUserInput.isSome) hstate) h
  exact absurd hquestion (by decide +kernel)

end CodexAcp.Thread
