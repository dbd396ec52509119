import CodexAcp.Thread.Replay
import CodexAcp.Thread.StateEffect

/-!
# The goal the editor is shown

Three parties have the goal of a thread: Codex stores it, the session remembers
it (`currentGoal`), and the editor was last shown one. A goal request changes all
three. A `/goal` command changes the stored one only, and leaves it to Codex to
report the change. A reported goal is remembered at once and shown by the
submission the report belongs to; a report the session remembers already is
dropped.

So the three drift apart in two ways: a report that belongs to no submission the
actor holds is remembered and never shown, and a `/goal` command leaves the session
with the goal it had.

> `goal_consistent_iff`: along every run, the editor is shown the goal the session
> remembers, and that is the stored one after every change the actor makes, exactly
> when neither happens.
> `goal_inconsistent`: a report of an unknown submission, and a `/goal pause`.
-/

namespace CodexAcp.Thread

open CodexAcp.Lib CodexAcp.Protocol CodexAcp.Boundary

/-! ## Stored, remembered, shown -/

/-- The change a `/goal` command asks for. -/
def goalCommandAction (codex : Codex) (args : String) : Option GoalControlAction :=
  let args := Text.trim args
  let arg := Text.toAsciiLowercase args
  if arg = "" then none
  else if arg = "clear" then some .clear
  else if arg = "pause" then some .pause
  else if arg = "resume" then some .resume
  else
    match codex.validateThreadGoalObjective args with
    | .ok () => some (.set args)
    | .error _ => none

/-- The goal a `/goal` command stores. -/
def commandedGoal (codex : Codex) (a : ThreadActor) (m : ThreadMessage) :
    Option (Option ThreadGoal) :=
  match messagePrompt codex a m with
  | none => none
  | some (items, b) =>
    match extractSlashCommand items with
    | none => none
    | some (name, rest) =>
      if name = "goal" ∧ b.goalsEnabled then
        (goalCommandAction codex rest).bind fun action => acceptedGoal codex action b
      else none

/-- The goal the thread stores after a step that changed it, by either path. -/
def storedGoal (codex : Codex) (a : ThreadActor) : Label → Option (Option ThreadGoal)
  | .message m => (controlledGoal codex a m).or (commandedGoal codex a m)
  | _ => none

/-- The editor was last shown the goal the session remembers. -/
def SessionView.GoalShown (v : SessionView) : Prop := v.goals.getLast?.join = v.memory.currentGoal

instance (v : SessionView) : Decidable v.GoalShown := inferInstanceAs (Decidable (_ = _))

/-- After a step, the editor is shown the goal the session remembers, and a goal the
step stored is remembered. -/
def GoalConsistent (codex : Codex) (r : Running) (l : Label) (r' : Running) : Prop :=
  r'.actor.view.GoalShown ∧
    ∀ goal, storedGoal codex r.actor l = some goal → r'.actor.state.currentGoal = goal

/-- Before a step: a report of another goal belongs to a submission the actor holds,
and what a `/goal` command stores is the goal the session remembers. -/
def GoalFollows (codex : Codex) (r : Running) : Label → Prop
  | .event event => ∀ goal, reportedGoal event.msg = some goal →
      r.actor.state.currentGoal = some goal ∨ (r.actor.submissions.lookup event.id).isSome = true
  | .message m => ∀ goal, commandedGoal codex r.actor m = some goal →
      r.actor.state.currentGoal = goal
  | _ => True

/-! ## The command and the request -/

section Commands

open ThreadActor Handler

variable {codex : Codex} {a : ThreadActor}

theorem setThreadGoalStatus_run (codex : Codex) (status : ThreadGoalStatus) (verb : String)
    (a : ThreadActor) :
    setThreadGoalStatus codex status verb a =
      (.ok (match codex.threadGoalSet a.world.calls { status := some status } with
        | .ok goal => formatThreadGoalSetMessage codex goal
        | .error err => "Failed to " ++ verb ++ " thread goal: " ++ codex.displayError err),
        a.called) := by
  unfold setThreadGoalStatus
  rw [bind_run, attempt_run, call_run]
  dsimp only
  cases codex.threadGoalSet a.world.calls { status := some status } <;> rfl

theorem changeThreadGoal_called (action : GoalControlAction) (a : ThreadActor) :
    (changeThreadGoal codex action a).2 = a.called := by
  cases action <;> exact map_state _ _ a

/-- The goal a change stores is the goal Codex returned for it. -/
theorem acceptedGoal_set {request : ThreadGoalSetRequest} {goal : ThreadGoal}
    (h : ((some <$> call fun n => codex.threadGoalSet n request :
      Handler ThreadActor Error (Option ThreadGoal)) a).1.toOption = some (some goal)) :
    codex.threadGoalSet a.world.calls request = .ok goal := by
  rw [map_run, call_run] at h
  cases hset : codex.threadGoalSet a.world.calls request with
  | ok goal' => rw [hset] at h; cases h; rfl
  | error e => rw [hset] at h; cases h

/-- A cleared goal is no goal. -/
theorem acceptedGoal_clear (goal : ThreadGoal) :
    acceptedGoal codex .clear a ≠ some (some goal) := by
  unfold acceptedGoal changeThreadGoal
  dsimp only
  rw [map_run, call_run]
  cases codex.threadGoalClear a.world.calls <;> nofun

/-- **Both paths** ask Codex for the same change; a `/goal` command then answers with
the goal it was told, and remembers nothing. -/
theorem handleGoalCommand_stores {args : String} {action : GoalControlAction}
    (henabled : a.goalsEnabled = true) (haction : goalCommandAction codex args = some action) :
    (handleGoalCommand codex args a).2 = (changeThreadGoal codex action a).2 ∧
      ∀ goal, acceptedGoal codex action a = some (some goal) →
        (handleGoalCommand codex args a).1 = .ok (formatThreadGoalSetMessage codex goal) := by
  rw [changeThreadGoal_called]
  unfold goalCommandAction at haction
  unfold handleGoalCommand
  rw [bind_run, reads_run]
  dsimp only [id] at haction ⊢
  rw [if_neg (by rw [henabled]; nofun)]
  -- Command and request branch on the same two texts, in the same order.
  generalize Text.trim args = args at haction ⊢
  generalize Text.toAsciiLowercase args = arg at haction ⊢
  by_cases hempty : arg = ""
  · rw [if_pos hempty] at haction
    cases haction
  rw [if_neg hempty] at haction ⊢
  by_cases hclear : arg = "clear"
  · rw [if_pos hclear] at haction ⊢
    cases haction
    rw [bind_run, call_run]
    refine ⟨?_, fun goal hgoal => absurd hgoal (acceptedGoal_clear goal)⟩
    cases codex.threadGoalClear a.world.calls with
    | ok cleared => cases cleared <;> rfl
    | error e => rfl
  rw [if_neg hclear] at haction ⊢
  by_cases hpause : arg = "pause"
  · rw [if_pos hpause] at haction ⊢
    cases haction
    rw [setThreadGoalStatus_run]
    refine ⟨rfl, fun goal hgoal => ?_⟩
    rw [acceptedGoal_set hgoal]
  rw [if_neg hpause] at haction ⊢
  by_cases hresume : arg = "resume"
  · rw [if_pos hresume] at haction ⊢
    cases haction
    rw [setThreadGoalStatus_run]
    refine ⟨rfl, fun goal hgoal => ?_⟩
    rw [acceptedGoal_set hgoal]
  rw [if_neg hresume] at haction ⊢
  unfold setThreadGoalObjective
  cases hvalid : codex.validateThreadGoalObjective args with
  | error message => rw [hvalid] at haction; cases haction
  | ok _ =>
    rw [hvalid] at haction
    cases haction
    dsimp only
    rw [bind_run, call_run]
    constructor
    · cases codex.threadGoalSet a.world.calls _ <;> rfl
    · intro goal hgoal
      rw [acceptedGoal_set hgoal]
      rfl

end Commands

/-! ## Requests -/

namespace SessionView

variable {v : SessionView}

/-- A goal that is remembered is shown with it. -/
theorem rememberGoal_shown (goal : Option (Option ThreadGoal)) (h : v.GoalShown) :
    (v.rememberGoal goal).GoalShown := by
  unfold rememberGoal
  cases goal with
  | none => exact h
  | some goal =>
    dsimp only
    split
    next => exact h
    next => simp [GoalShown]

@[simp] theorem answer_goalShown (answered : Bool) :
    (v.answer answered).GoalShown ↔ v.GoalShown := by
  cases answered <;> exact Iff.rfl

@[simp] theorem switchMode_goalShown (kind : Option ModeKind) :
    (v.switchMode kind).GoalShown ↔ v.GoalShown := by
  cases kind <;> exact Iff.rfl

end SessionView

/-! ## Events -/

section Events

open ThreadActor

variable {codex : Codex} {a : ThreadActor}

theorem goalUpdates_append (sent sent' : List SessionUpdate) :
    goalUpdates (sent ++ sent') = goalUpdates sent ++ goalUpdates sent' :=
  List.filterMap_append

/-- The goals an effect shows. -/
def effectGoals : BridgeEffect → List (Option ThreadGoal)
  | .forward update => goalUpdates [update]
  | .rendered => []

theorem executeBridgeEffect_goals (effect : BridgeEffect) (w : World) :
    goalUpdates (w.executeBridgeEffect effect).sent =
      goalUpdates w.sent ++ effectGoals effect := by
  cases effect with
  | forward update => exact goalUpdates_append w.sent [update]
  | rendered => exact (List.append_nil _).symm

theorem effectGoals_shownEffect (msg : EventMsg) :
    effectGoals (shownEffect msg) = ((reportedGoal msg).map some).toList := by
  cases msg
  case threadRolledBack event =>
    show effectGoals (threadRolledBack event) = _
    unfold threadRolledBack
    split <;> rfl
  case exitedReviewMode event =>
    obtain ⟨reviewOutput⟩ := event
    cases reviewOutput <;> rfl
  all_goals rfl

/-- The goals a submission shows of an event. -/
theorem submission_goals (codex : Codex) (msg : EventMsg) (c : InSubmission) :
    goalUpdates (InSubmission.handleEvent codex msg c).world.sent =
      goalUpdates c.world.sent ++ ((reportedGoal msg).map some).toList := by
  have hhandled := handleEvent_handled codex msg c
  generalize InSubmission.handleEvent codex msg c = c' at hhandled
  -- Events that ask or end the prompt report no goal; only the last case is left with one.
  have hnone : (askedTarget msg).isSome ∨ (terminalResult msg).isSome → reportedGoal msg = none := by
    intro h
    cases msg <;> first | rfl | simp [askedTarget, terminalResult] at h
  cases hhandled with
  | requested hask =>
    rw [hnone (.inl (by rw [approvalRequest_target hask]; rfl))]
    exact (List.append_nil _).symm
  | contentFailed hmsg =>
    subst hmsg
    rw [sendResult_eq]
    exact (List.append_nil _).symm
  | declined hmsg =>
    subst hmsg
    rw [orSendResult_sent (inSubmission_submitOk_sent _ c)]
    exact (List.append_nil _).symm
  | finished hresult =>
    rw [hnone (.inr (by rw [hresult]; rfl)), finish_eq]
    exact (List.append_nil _).symm
  | passed =>
    rw [← effectGoals_shownEffect]
    exact executeBridgeEffect_goals (shownEffect msg) c.world

/-- But for a report of a goal, an event writes no goal. -/
theorem handleEvent_goal (codex : Codex) (event : Event) (a : ThreadActor) :
    (a.handleEvent codex event).state.currentGoal =
      (reportedGoal event.msg).or a.state.currentGoal := by
  rw [handleEvent_state]
  have hsame := congrArg ActorState.currentGoal
    (liveAction_withoutQuestion event (a.state.applyEventUpdates (actorStateUpdates event.msg)))
  refine hsame.trans ?_
  show (a.state.applyEventUpdates (actorStateUpdates event.msg)).currentGoal = _
  rw [ActorState.applyEventUpdates_eq]
  exact actorStateUpdates_goal event.msg a.state.currentGoal

/-- The editor was shown no goal. -/
def SameGoals (a b : ThreadActor) : Prop := goalUpdates b.world.sent = goalUpdates a.world.sent

theorem sameGoalsPrompts : PromptFrame SameGoals where
  refl _ := rfl
  trans h h' := Eq.trans h' h
  called _ := rfl
  saved _ _ := rfl
  accepted _ _ _ := rfl
  waiter _ := rfl
  submissions _ _ := rfl
  shown text a := congrArg SessionView.goals (sameViewPrompts.shown text a)
  result result waiter a := congrArg SessionView.goals (sameViewPrompts.result result waiter a)

theorem onSubmission_goals (codex : Codex) (event : Event) (a : ThreadActor) :
    goalUpdates (a.onSubmission event.id (InSubmission.handleEvent codex event.msg)).world.sent =
      goalUpdates a.world.sent ++
        match a.submissions.lookup event.id with
        | none => []
        | some _ => ((reportedGoal event.msg).map some).toList := by
  unfold onSubmission
  cases a.submissions.lookup event.id with
  | none => exact (List.append_nil _).symm
  | some p => exact submission_goals codex event.msg ⟨p, a.world⟩

/-- An event that reports no goal shows none. -/
theorem handleEvent_sameGoals {event : Event} (h : reportedGoal event.msg = none)
    (a : ThreadActor) : SameGoals a (a.handleEvent codex event) := by
  unfold handleEvent
  dsimp only
  split
  · rfl
  · refine sameGoalsPrompts.plannedEvent_frame (fun _ _ => rfl) (fun b => ?_)
      (planActorEvent event.msg).action { a with state := _ }
    show goalUpdates _ = goalUpdates _
    rw [onSubmission_goals, h]
    cases b.submissions.lookup event.id <;> exact List.append_nil _

/-- **A report** of another goal is remembered, and shown if the actor holds the
submission it belongs to. -/
theorem handleEvent_report {id : String} {goal : ThreadGoal} {a : ThreadActor}
    (hother : a.state.currentGoal ≠ some goal) :
    goalUpdates (a.handleEvent codex ⟨id, .threadGoalUpdated ⟨goal⟩⟩).world.sent =
      goalUpdates a.world.sent ++
        match a.submissions.lookup id with
        | none => []
        | some _ => [some goal] := by
  have hnew : ¬ (some goal).any a.state.isCurrentGoal = true := by
    simpa [ActorState.isCurrentGoal] using hother
  -- A report is not approved unasked, so it goes on to its submission.
  have hauto : ∀ b : ThreadActor,
      b.maybeAutoApprovePermissionRequest codex none = (false, b) := by
    intro b
    unfold maybeAutoApprovePermissionRequest
    split <;> rfl
  have hrun : a.handleEvent codex ⟨id, .threadGoalUpdated ⟨goal⟩⟩ =
      onSubmission id (InSubmission.handleEvent codex (.threadGoalUpdated ⟨goal⟩))
        { a with state := (a.state.updateGoal (some goal)).2 } := by
    unfold handleEvent
    dsimp only [planActorEvent, routeActorEvent]
    rw [hauto]
    exact if_neg hnew
  rw [hrun]
  exact onSubmission_goals codex ⟨id, .threadGoalUpdated ⟨goal⟩⟩ _

/-- A report of the goal the session remembers changes nothing. -/
theorem handleEvent_current {id : String} {goal : ThreadGoal} {a : ThreadActor}
    (hsame : a.state.currentGoal = some goal) :
    a.handleEvent codex ⟨id, .threadGoalUpdated ⟨goal⟩⟩ = a := by
  have hcurrent : (some goal).any a.state.isCurrentGoal = true := by
    simpa [ActorState.isCurrentGoal] using hsame
  unfold handleEvent
  dsimp only
  rw [if_pos]
  exact hcurrent

/-- **Events** keep the goal shown, unless they report another goal for a submission the
actor does not hold. -/
theorem handleEvent_goalShown (codex : Codex) (event : Event) {a : ThreadActor}
    (h : a.view.GoalShown) :
    (a.handleEvent codex event).view.GoalShown ↔
      ∀ goal, reportedGoal event.msg = some goal →
        a.state.currentGoal = some goal ∨ (a.submissions.lookup event.id).isSome = true := by
  have hgoal := handleEvent_goal codex event a
  have hshown : (a.handleEvent codex event).view.GoalShown ↔
      (goalUpdates (a.handleEvent codex event).world.sent).getLast?.join =
        (a.handleEvent codex event).state.currentGoal := Iff.rfl
  rw [hshown, hgoal]
  cases hreport : reportedGoal event.msg with
  | none =>
    rw [handleEvent_sameGoals hreport]
    exact ⟨fun _ _ hnone => (nomatch hnone), fun _ => h⟩
  | some goal =>
    obtain ⟨id, msg⟩ := event
    obtain ⟨⟨reported⟩, rfl⟩ : ∃ report, msg = .threadGoalUpdated report := by
      cases msg <;> first | exact ⟨_, rfl⟩ | cases hreport
    obtain rfl : reported = goal := Option.some.inj hreport
    by_cases hsame : a.state.currentGoal = some reported
    -- The report repeats what is remembered: nothing is handled, and the goal is shown already.
    · rw [handleEvent_current hsame]
      refine ⟨fun _ _ hg => .inl (by cases hg; exact hsame), fun _ => ?_⟩
      exact (show (goalUpdates a.world.sent).getLast?.join = a.state.currentGoal from h).trans hsame
    · rw [handleEvent_report hsame]
      -- Remembered in any case; shown only by a submission that is there.
      cases hheld : a.submissions.lookup id with
      | none =>
        have hshown : (goalUpdates a.world.sent).getLast?.join = a.state.currentGoal := h
        rw [List.append_nil, hshown]
        constructor
        · intro hcurrent
          exact absurd hcurrent hsame
        · intro hheld'
          rcases hheld' reported rfl with hcurrent | hsome
          · exact hcurrent
          · cases hsome
      | some p => simp

end Events

/-! ## Histories -/

section Histories

open ThreadActor

variable {codex : Codex}

/-- The goals a replayed event is shown as. -/
def replayedGoals : ReplayEventAction → List (Option ThreadGoal)
  | .effect effect => effectGoals effect
  | _ => []

theorem replayedGoals_eq (msg : EventMsg) :
    replayedGoals (routeReplayEventAction msg) = ((reportedGoal msg).map some).toList := by
  cases msg
  case turnAborted event =>
    obtain ⟨turnId⟩ := event
    cases turnId <;> rfl
  all_goals rfl

/-- A replayed event shows the goal it reports, whether it is remembered or not. -/
theorem replayItem_goals (msg : EventMsg) (a : ThreadActor) :
    goalUpdates (a.replayItem codex (.eventMsg msg)).world.sent =
      goalUpdates a.world.sent ++ ((reportedGoal msg).map some).toList := by
  rw [← replayedGoals_eq]
  show goalUpdates (a.replayEventPlan codex (routeReplayEventMsg msg)).world.sent = _
  unfold replayEventPlan
  rw [show (routeReplayEventMsg msg).action = routeReplayEventAction msg from rfl]
  dsimp only
  cases routeReplayEventAction msg with
  | effect effect => exact executeBridgeEffect_goals effect a.world
  | registerPendingUserInput turnId event =>
    rw [show replayedGoals _ = [] from rfl, List.append_nil]
    exact sameGoalsPrompts.shown _ a
  | _ => exact (List.append_nil _).symm

theorem replayItem_goal (msg : EventMsg) (a : ThreadActor) :
    (a.replayItem codex (.eventMsg msg)).state.currentGoal =
      (reportedGoal msg).or a.state.currentGoal := by
  rw [replayItem_state]
  have hsame := congrArg ActorState.currentGoal
    (replayAction_withoutQuestion msg (a.state.applyEventUpdates (actorStateUpdates msg)))
  refine hsame.trans ?_
  show (a.state.applyEventUpdates (actorStateUpdates msg)).currentGoal = _
  rw [ActorState.applyEventUpdates_eq]
  exact actorStateUpdates_goal msg a.state.currentGoal

theorem replayItem_goalShown (item : RolloutItem) {a : ThreadActor} (h : a.view.GoalShown) :
    (a.replayItem codex item).view.GoalShown := by
  cases item with
  | responseItem item =>
    show (a.replayResponseItem codex (routeReplayResponseItem item)).view.GoalShown
    rw [replayResponseItem_eq]
    show (goalUpdates (a.world.sent ++ _)).getLast?.join = a.state.currentGoal
    have hnone : goalUpdates (replayResponseItemPlan (codex.newUuid a.world.sent.length)
        (routeReplayResponseItem item)).updates = [] := by
      refine List.filterMap_eq_nil_iff.mpr fun update hupdate => ?_
      rcases toolCall_or_update hupdate with ⟨_, rfl⟩ | ⟨_, rfl⟩ <;> rfl
    rw [goalUpdates_append, hnone, List.append_nil]
    exact h
  | stateOnly => exact h
  | eventMsg msg =>
    show (goalUpdates (a.replayItem codex (.eventMsg msg)).world.sent).getLast?.join =
      (a.replayItem codex (.eventMsg msg)).state.currentGoal
    rw [replayItem_goals, replayItem_goal]
    cases reportedGoal msg with
    | none => rw [show Option.toList _ = [] from rfl, List.append_nil]; exact h
    | some goal => simp

/-- **Histories** keep the goal shown. -/
theorem handleReplayHistory_goalShown (history : List RolloutItem) {a : ThreadActor}
    (h : a.view.GoalShown) : (a.handleReplayHistory codex history).view.GoalShown := by
  unfold handleReplayHistory
  induction history generalizing a with
  | nil => exact h
  | cons item history ih => exact ih (replayItem_goalShown item h)

end Histories

/-! ## Runs -/

theorem viewAfter_goalShown (codex : Codex) (m : ThreadMessage) {a : ThreadActor}
    (h : a.view.GoalShown) : (a.viewAfter codex m).GoalShown := by
  unfold ThreadActor.viewAfter
  rw [SessionView.switchMode_goalShown]
  exact SessionView.rememberGoal_shown _ ((SessionView.answer_goalShown _).mpr h)

/-- A goal request is no prompt. -/
theorem commandedGoal_of_controlled {codex : Codex} {a : ThreadActor} {m : ThreadMessage}
    {goal : Option ThreadGoal} (h : controlledGoal codex a m = some goal) :
    commandedGoal codex a m = none := by
  cases m with
  | controlGoal action => rfl
  | _ => cases h

/-- **A message** leaves the goals consistent when what a `/goal` command stores is the
goal the session remembers. -/
theorem message_goal {codex : Codex} {r r' : Running} {m : ThreadMessage}
    (hm : replaysHistory m = false) (h : r.actor.view.GoalShown)
    (hstep : r.step codex (.message m) = some r') :
    GoalConsistent codex r (.message m) r' ↔ GoalFollows codex r (.message m) := by
  have hl : handlesEvents (.message m) = false := hm
  have hview : r'.actor.view = r.actor.viewAfter codex m := step_view hl hstep
  have hgoal : r'.actor.state.currentGoal =
      (controlledGoal codex r.actor m).getD r.actor.state.currentGoal := by
    have hmemory := viewAfter_memory codex r.actor m
    rw [← hview] at hmemory
    exact congrArg ActorState.currentGoal hmemory
  have hshown : r'.actor.view.GoalShown := by
    rw [hview]
    exact viewAfter_goalShown codex m h
  unfold GoalConsistent GoalFollows storedGoal
  dsimp only
  rw [hgoal]
  cases hcontrolled : controlledGoal codex r.actor m with
  | none => exact ⟨fun h => h.2, fun h => ⟨hshown, h⟩⟩
  | some goal =>
    -- A goal request remembers what it stored, and is no `/goal` command besides.
    rw [commandedGoal_of_controlled hcontrolled]
    exact ⟨fun _ _ hnone => (nomatch hnone), fun _ => ⟨hshown, fun _ h => Option.some.inj h⟩⟩

/-- **A step** leaves the goals consistent exactly when it follows them. -/
theorem step_goal {codex : Codex} {r r' : Running} {l : Label} (h : r.actor.view.GoalShown)
    (hstep : r.step codex l = some r') : GoalConsistent codex r l r' ↔ GoalFollows codex r l := by
  have hstored : ∀ {g : Option ThreadGoal}, ∀ goal, (none : Option (Option ThreadGoal)) = some goal →
      g = goal := fun _ hnone => nomatch hnone
  cases l with
  | event event =>
    simp only [Running.step, Option.ite_none_right_eq_some, Option.some.injEq] at hstep
    obtain ⟨_, rfl⟩ := hstep
    have hevent := handleEvent_goalShown codex event h
    exact ⟨fun hc => hevent.mp hc.1, fun hf => ⟨hevent.mpr hf, hstored⟩⟩
  | message m =>
    by_cases hm : replaysHistory m
    · cases m with
      | replayHistory history =>
        simp only [Running.step, Option.ite_none_right_eq_some, Option.some.injEq] at hstep
        obtain ⟨_, rfl⟩ := hstep
        refine ⟨fun _ => hstored, fun _ => ⟨?_, hstored⟩⟩
        exact handleReplayHistory_goalShown history h
      | _ => cases hm
    · exact message_goal (by simpa using hm) h hstep
  | _ =>
    have hview := step_view rfl hstep
    refine ⟨fun _ => trivial, fun _ => ⟨?_, hstored⟩⟩
    rw [hview]
    exact h

/-- **Goals.** Along every run, the editor is shown the goal the session remembers, and
a goal stored by a goal request or a `/goal` command is remembered, exactly when every
step follows the goals. -/
theorem goal_consistent_iff (codex : Codex) (config : Config) (models : ModelsManager)
    (ls : List Label) :
    Along (Running.step codex) (GoalConsistent codex) (.start config models) ls ↔
      Along (Running.step codex) (fun r l _ => GoalFollows codex r l) (.start config models) ls := by
  have hstart : (Running.start config models).actor.view.GoalShown := rfl
  refine along_iff_of_invariant (E := fun _ _ _ => True) (I := fun r => r.actor.view.GoalShown)
    (fun r l r' h _ hstep => ?_) ls hstart (along_of_forall (fun _ _ _ => trivial) ls _)
  exact ⟨step_goal h hstep, fun hc => hc.1⟩

instance (codex : Codex) (r : Running) (l : Label) (r' : Running) :
    Decidable (GoalConsistent codex r l r') :=
  match h : storedGoal codex r.actor l with
  | none => decidable_of_iff r'.actor.view.GoalShown (by simp [GoalConsistent, h])
  | some goal =>
    decidable_of_iff (r'.actor.view.GoalShown ∧ r'.actor.state.currentGoal = goal)
      (by simp [GoalConsistent, h])

/-- A goal for concrete runs. -/
def sampleGoal : ThreadGoal :=
  { threadId := "thread", objective := "ship", status := .paused, tokenBudget := none
    tokensUsed := 0, timeUsedSeconds := 0, createdAt := 0, updatedAt := 0 }

/-- **Drift.** A report of a goal for a submission the actor does not hold; and a
`/goal pause` that Codex accepts. -/
theorem goal_inconsistent :
    ¬ Along (Running.step Codex.sample) (GoalConsistent Codex.sample)
        (.start Config.sample ModelsManager.sample)
        [.noResolution, .event ⟨"unknown", .threadGoalUpdated ⟨sampleGoal⟩⟩] ∧
      ¬ Along (Running.step { Codex.sample with threadGoalSet := fun _ _ => .ok sampleGoal })
        (GoalConsistent { Codex.sample with threadGoalSet := fun _ _ => .ok sampleGoal })
        (.start Config.sample ModelsManager.sample)
        [.message (.prompt ⟨[.text "/goal pause"]⟩)] := by
  constructor <;> decide +kernel

end CodexAcp.Thread
