import CodexAcp.Thread.EventEffect

/-!
# The effects of messages and steps

A settings request is quiet; a prompt is submitted, answers the question the
session waits for, or is handled on the spot; a cancel or a shutdown drops every
pending request before it submits its op.

> `handleMessage_effect`: every message has one of these effects.
> `step_effect`: every step of the loop is one of the cases of `Effect`.
-/

namespace CodexAcp.Thread

open CodexAcp.Lib CodexAcp.Protocol CodexAcp.Boundary

/-! ## Messages -/

section Messages

open ThreadActor

variable {codex : Codex} {a b a' : ThreadActor} {m : ThreadMessage}

theorem Effect.of_quiet (h : Quiet a.desk a'.desk) : Effect codex a a' (.message m) := by
  obtain ⟨ops, hops, h⟩ := h
  exact .quiet (n := 0) hops h

theorem answer_desk {α : Type} (toReply : Except Error α → Reply) (x : Handler ThreadActor Error α)
    (a : ThreadActor) : (a.answer toReply x).desk = (x a).2.desk := rfl

theorem answer_quiet {α : Type} {toReply : Except Error α → Reply}
    {x : Handler ThreadActor Error α} (hx : QuietHandler x) :
    Effect codex a (a.answer toReply x) (.message m) :=
  .of_quiet (hx a)

/-- The ops a prompt is submitted as answer no approval and override no setting. -/
def SubmitsPrompt : PromptSubmission → Prop
  | .submit op => op.approvalTarget = none ∧ op.overrides = none
  | .handled _ => True

private theorem returns_map_handled {x : Handler ThreadActor Error String} :
    Handler.Returns SubmitsPrompt ((.handled <| .text ·) <$> x) :=
  Handler.returns_bind fun _ => Handler.returns_pure trivial

private theorem returns_ite {c : Prop} [Decidable c]
    {x y : Handler ThreadActor Error PromptSubmission} (hx : Handler.Returns SubmitsPrompt x)
    (hy : Handler.Returns SubmitsPrompt y) :
    Handler.Returns SubmitsPrompt (if c then x else y) := by
  split
  · exact hx
  · exact hy

theorem handlePlanCommand_submits (rest : String) (items : List UserInput) :
    Handler.Returns SubmitsPrompt (handlePlanCommand codex rest items) := by
  unfold handlePlanCommand
  dsimp only
  split
  · exact Handler.returns_bind fun _ => Handler.returns_pure trivial
  split
  · exact Handler.returns_bind fun _ => Handler.returns_pure trivial
  · exact Handler.returns_bind fun _ => Handler.returns_pure ⟨rfl, rfl⟩

theorem handleSlashCommand_submits (name rest : String) (items : List UserInput) :
    Handler.Returns SubmitsPrompt (handleSlashCommand codex name rest items) := by
  unfold handleSlashCommand
  refine returns_ite (Handler.returns_pure ⟨rfl, rfl⟩) ?_
  refine returns_ite (Handler.returns_pure ⟨rfl, rfl⟩) ?_
  refine returns_ite (Handler.returns_pure ⟨rfl, rfl⟩) ?_
  refine returns_ite (Handler.returns_reads fun _ => ⟨rfl, rfl⟩) ?_
  refine returns_ite (Handler.returns_pure ⟨rfl, rfl⟩) ?_
  refine returns_ite (Handler.returns_pure ⟨rfl, rfl⟩) ?_
  refine returns_ite (Handler.returns_pure trivial) ?_
  refine returns_ite (Handler.returns_pure trivial) ?_
  refine returns_ite returns_map_handled ?_
  refine returns_ite returns_map_handled ?_
  refine returns_ite (Handler.returns_pure trivial) ?_
  refine returns_ite (Handler.returns_pure trivial) ?_
  refine returns_ite (Handler.returns_pure trivial) ?_
  refine returns_ite (Handler.returns_pure trivial) ?_
  refine returns_ite returns_map_handled ?_
  refine returns_ite (handlePlanCommand_submits _ _) ?_
  refine returns_ite (Handler.returns_bind fun _ => Handler.returns_fail _) ?_
  exact Handler.returns_pure ⟨rfl, rfl⟩

theorem promptSubmissionForItems_submits (items : List UserInput) :
    Handler.Returns SubmitsPrompt (promptSubmissionForItems codex items) := by
  unfold promptSubmissionForItems
  split
  · exact Handler.returns_pure ⟨rfl, rfl⟩
  · exact handleSlashCommand_submits _ _ _

theorem newWaiter_run (a : ThreadActor) :
    newWaiter a = (.ok a.world.waiters, a.withWaiter) := rfl

theorem ensureSubmission_desk (id : String) (a : ThreadActor) :
    (ensureSubmission id a).desk = a.desk.ensure id := by
  unfold ensureSubmission Desk.ensure
  rw [show a.desk.submissions = a.submissions from rfl]
  cases a.submissions.lookup id <;> rfl

theorem Desk.ensure_lookup (id : String) (d : Desk) :
    ∃ p, (d.ensure id).submissions.lookup id = some p := by
  unfold Desk.ensure
  dsimp only
  cases hp : d.submissions.lookup id with
  | some p => exact ⟨p, hp⟩
  | none => exact ⟨_, AList.lookup_insert _⟩

theorem ensureSubmission_calls (id : String) (a : ThreadActor) :
    (ensureSubmission id a).world.calls = a.world.calls := by
  unfold ensureSubmission
  split <;> rfl

theorem ensureSubmission_lookup (id : String) (a : ThreadActor) :
    ∃ p, (ensureSubmission id a).submissions.lookup id = some p := by
  obtain ⟨p, hp⟩ := Desk.ensure_lookup id a.desk
  rw [← ensureSubmission_desk] at hp
  exact ⟨p, hp⟩

/-- **An answer**, with its three ends. The submission is made sure of before the submit, so the
branch without one is not taken. -/
theorem handlePendingUserInputPrompt_run (codex : Codex) (request : PromptRequest)
    {a : ThreadActor} {pendingRequest : PendingUserInputRequest}
    (hpending : a.state.pendingUserInput = some pendingRequest) :
    ∃ b p, b = ensureSubmission pendingRequest.submissionId a.withWaiter ∧
      b.submissions.lookup pendingRequest.submissionId = some p ∧
      handlePendingUserInputPrompt codex request a =
        match codex.parseRequestUserInputResponse pendingRequest
            (promptRequestText codex request.prompt) with
        | .error err => (.error err, a.withWaiter)
        | .ok response =>
          match codex.submit a.world.calls (.userInputAnswer pendingRequest.turnId response) with
          | .error err =>
            (.error (Error.internalError.withData (codex.displayError (Error.fromAnyhow err))),
              b.called)
          | .ok submissionId =>
            (.ok a.world.waiters, clearPendingUserInput
              { b.accept (.userInputAnswer pendingRequest.turnId response) submissionId with
                submissions := b.submissions.set pendingRequest.submissionId
                  (p.addResponseTx a.world.waiters) }) := by
  obtain ⟨p, hp⟩ := ensureSubmission_lookup pendingRequest.submissionId a.withWaiter
  refine ⟨_, p, rfl, hp, ?_⟩
  have hcalls := ensureSubmission_calls pendingRequest.submissionId a.withWaiter
  unfold handlePendingUserInputPrompt
  rw [Handler.bind_run, Handler.reads_run]
  dsimp only [id]
  rw [hpending]
  dsimp only
  rw [Handler.bind_run, newWaiter_run]
  dsimp only
  rw [Handler.bind_run, Handler.lift_run]
  cases codex.parseRequestUserInputResponse pendingRequest
      (promptRequestText codex request.prompt) with
  | error err => rfl
  | ok response =>
    dsimp only
    rw [Handler.bind_run, Handler.update_run]
    dsimp only
    generalize ensureSubmission pendingRequest.submissionId a.withWaiter = b at hp hcalls
    rw [Handler.bind_run, Handler.mapError_run, submitOk_run,
      show b.world.calls = a.world.calls from hcalls]
    cases codex.submit a.world.calls (.userInputAnswer pendingRequest.turnId response) with
    | error err => rfl
    | ok submissionId =>
      dsimp only
      rw [Handler.bind_run, Handler.reads_run]
      dsimp only [id]
      rw [show (b.accept (.userInputAnswer pendingRequest.turnId response)
        submissionId).submissions.lookup pendingRequest.submissionId = some p from hp]
      rfl

/-- A prompt that answers the question the session waits for. -/
theorem handlePendingUserInputPrompt_effect (request : PromptRequest) (hb : b.desk = a.desk)
    (h : a'.desk = (handlePendingUserInputPrompt codex request b).2.desk) :
    Effect codex a a' (.message m) := by
  cases hquestion : b.state.pendingUserInput with
  | none =>
    unfold handlePendingUserInputPrompt at h
    rw [Handler.bind_run, Handler.reads_run] at h
    dsimp only [id] at h
    rw [hquestion] at h
    exact .of_quiet (.of_eq (h.trans hb))
  | some pendingRequest =>
    have hpending : a.desk.pendingSubmission = some pendingRequest.submissionId := by
      rw [← hb]
      show b.state.pendingUserInput.map _ = _
      rw [hquestion]
      rfl
    obtain ⟨c, p, hc, hp, hrun⟩ := handlePendingUserInputPrompt_run codex request hquestion
    have hdesk : c.desk =
        { a.desk with
          submissions := (a.desk.ensure pendingRequest.submissionId).submissions
          waiters := a.desk.waiters + 1 } := by
      rw [hc, ensureSubmission_desk, ← hb]
      rfl
    have hsubs : c.submissions = (a.desk.ensure pendingRequest.submissionId).submissions :=
      congrArg Desk.submissions hdesk
    rw [hrun] at h
    cases hparse : codex.parseRequestUserInputResponse pendingRequest
        (promptRequestText codex request.prompt) with
    | error err =>
      rw [hparse] at h
      -- The prompt cannot be read as an answer: only the waiter was made.
      refine .quiet (n := 1) (List.forall_mem_nil _) ?_
      rw [← hb, List.append_nil]
      exact h
    | ok response =>
      rw [hparse] at h
      dsimp only at h
      cases hsubmit : codex.submit b.world.calls
          (.userInputAnswer pendingRequest.turnId response) with
      | error err =>
        rw [hsubmit] at h
        exact .answerRefused hpending (h.trans hdesk)
      | ok submissionId =>
        rw [hsubmit] at h
        have hanswered : a'.desk =
            { c.desk with
              accepted := c.desk.accepted ++
                [(.userInputAnswer pendingRequest.turnId response, submissionId)]
              submissions := c.submissions.set
                pendingRequest.submissionId (p.addResponseTx b.desk.waiters)
              pendingSubmission := none } := h
        rw [hsubs, hdesk, hb] at hanswered
        exact .answered hpending rfl (hsubs ▸ hp) hanswered

theorem answerHandled_desk (message : AgentText) (waiter : WaiterId) (a : ThreadActor) :
    (answerHandled message waiter a).2.desk =
      { a.desk with
        results := a.desk.results ++ delivered a.desk.closed [waiter] (.ok .endTurn) } := by
  show ({ a with
    world := List.foldl (World.sendResult (.ok .endTurn)) (a.agentText message).world [waiter] } :
      ThreadActor).desk = _
  rw [foldl_sendResult]
  rfl

theorem submitPrompt_desk (op : Op) (waiter : WaiterId) (a : ThreadActor) :
    (submitPrompt codex op waiter a).2.desk =
      match codex.submit a.world.calls op with
      | .ok id =>
        { a.desk with
          accepted := a.desk.accepted ++ [(op, id)]
          submissions := a.desk.submissions.insert id (.new id waiter) }
      | .error _ => a.desk := by
  unfold submitPrompt onWorld
  rw [Handler.bind_run, Handler.zoom_run]
  unfold Handler.mapError World.submit
  cases codex.submit a.world.calls op <;> rfl

/-- **Prompts.** A prompt answers a question, is submitted, or is handled on the spot. -/
theorem handlePrompt_effect (request : PromptRequest) (hb : b.desk = a.desk)
    (hm : messagePrompt codex a m = freshPrompt codex request b)
    (h : a'.desk = (handlePrompt codex request b).2.desk) : Effect codex a a' (.message m) := by
  unfold handlePrompt at h
  rw [Handler.bind_run, Handler.reads_run] at h
  dsimp only [id] at h
  by_cases hquestion : b.state.pendingUserInput.isSome
  · rw [if_pos hquestion] at h
    exact handlePendingUserInputPrompt_effect request hb h
  unfold freshPrompt at hm
  rw [if_neg hquestion] at hm
  rw [if_neg hquestion, Handler.bind_run, newWaiter] at h
  dsimp only at h
  rw [Handler.bind_run] at h
  change messagePrompt codex a m =
    some (_, ({ b with world := { b.world with waiters := b.world.waiters + 1 } } : ThreadActor))
    at hm
  generalize hc : ({ b with world := { b.world with waiters := b.world.waiters + 1 } } :
    ThreadActor) = c at h hm
  have hdesk : c.desk = { a.desk with waiters := a.desk.waiters + 1 } := by
    rw [← hc, ← hb]
    rfl
  have hwaiter : b.world.waiters = a.desk.waiters := congrArg Desk.waiters hb
  have hframe : SettingsFrame codex fun a b => Quiet a.desk b.desk := quietFrame
  have hsubmits : Handler.Returns SubmitsPrompt (promptSubmissionForItems codex
      (codex.buildPromptItems request.prompt (some b.config.cwd))) :=
    promptSubmissionForItems_submits _
  replace hsubmits := hsubmits c
  obtain ⟨ops, hops, hquiet⟩ := hframe.promptSubmissionForItems_frame
    (codex.buildPromptItems request.prompt (some b.config.cwd)) c
  match hrun : promptSubmissionForItems codex
      (codex.buildPromptItems request.prompt (some b.config.cwd)) c with
  | (.error err, e) =>
    rw [hrun] at h hquiet
    refine .quiet (n := 1) hops (h.trans (hquiet.trans ?_))
    rw [hdesk]
  | (.ok (.handled message), e) =>
    rw [hrun] at h hquiet
    dsimp only at h
    rw [answerHandled_desk, hquiet, hdesk, hwaiter] at h
    exact .shown hm (congrArg Prod.fst hrun) hops h
  | (.ok (.submit op), e) =>
    have hop : op.approvalTarget = none := (hsubmits _ _ hrun).1
    rw [hrun] at h hquiet
    dsimp only at h
    rw [submitPrompt_desk] at h
    split at h
    next id _ =>
      rw [hquiet, hdesk, hwaiter] at h
      exact .opened hops hop h
    -- Refused: the waiter was made and is dropped with the caller's reply.
    next => exact .quiet (n := 1) hops (by rw [h, hquiet, hdesk])

/-- **Steering.** It reaches the running turn, or the prompt starts a new one. -/
theorem handleSteer_effect (request : PromptRequest)
    (h : a'.desk = (handleSteer codex request a).2.desk) :
    Effect codex a a' (.message (.steer request)) := by
  unfold handleSteer at h
  by_cases hempty : request.prompt.isEmpty
  · rw [if_pos hempty] at h
    exact .of_quiet (.of_eq h)
  rw [if_neg hempty, Handler.bind_run, Handler.reads_run] at h
  dsimp only [id] at h
  by_cases hitems : (codex.buildPromptItems request.prompt (some a.config.cwd)).isEmpty
  · rw [if_pos hitems] at h
    exact .of_quiet (.of_eq h)
  rw [if_neg hitems, Handler.bind_run] at h
  unfold onWorld at h
  rw [Handler.zoom_run, Handler.attempt_run, World.call] at h
  dsimp only at h
  generalize hb : ({ a with world := { a.world with calls := a.world.calls + 1 } } :
    ThreadActor) = b at h
  have hdesk : b.desk = a.desk := by rw [← hb]; rfl
  cases hsteer : codex.steerInput a.world.calls
      (codex.buildPromptItems request.prompt (some a.config.cwd)) with
  | ok _ =>
    rw [hsteer] at h
    exact .of_quiet (.of_eq (h.trans hdesk))
  | error err =>
    rw [hsteer] at h
    cases err with
    -- Only the want of an active turn makes a prompt of the request.
    | other _ => exact .of_quiet (.of_eq (h.trans hdesk))
    | noActiveTurn =>
      dsimp only at h
      rw [Handler.bind_run] at h
      have hm : messagePrompt codex a (.steer request) = freshPrompt codex request b := by
        unfold messagePrompt
        dsimp only
        rw [if_neg (by rw [Bool.or_eq_true]; exact not_or.mpr ⟨hempty, hitems⟩), if_pos hsteer,
          ← hb]
        rfl
      -- The reply says that a turn was started; the desk is the prompt's either way.
      refine handlePrompt_effect request hdesk hm (h.trans ?_)
      match handlePrompt codex request b with
      | (.ok _, c) => rfl
      | (.error _, c) => rfl

theorem clear_effect {op : Op} (hm : m = .cancel ∧ op = .interrupt ∨ m = .shutdown ∧ op = .shutdown)
    (h : a'.desk = (submitOk codex op a.abortPendingInteractions).2.desk) :
    Effect codex a a' (.message m) := by
  rw [submitOk_run] at h
  cases hsubmit : codex.submit a.world.calls op with
  | ok id =>
    rw [show a.abortPendingInteractions.world.calls = a.world.calls from rfl, hsubmit] at h
    exact .cancelled hm hsubmit h
  | error err =>
    rw [show a.abortPendingInteractions.world.calls = a.world.calls from rfl, hsubmit] at h
    exact .cancelRefused hm hsubmit h

/-- A replayed item moves at most the wait for user input. -/
theorem replayItem_desk (item : RolloutItem) (a : ThreadActor) :
    (replayItem codex a item).desk =
      { a.desk with pendingSubmission := (replayItem codex a item).desk.pendingSubmission } := by
  cases item with
  | responseItem item =>
    show (a.replayResponseItem codex (routeReplayResponseItem item)).desk =
      { a.desk with
        pendingSubmission :=
          (a.replayResponseItem codex (routeReplayResponseItem item)).desk.pendingSubmission }
    rw [replayResponseItem_eq]
    rfl
  | stateOnly => rfl
  | eventMsg event =>
    show (a.replayEventPlan codex (routeReplayEventMsg event)).desk =
      { a.desk with
        pendingSubmission :=
          (a.replayEventPlan codex (routeReplayEventMsg event)).desk.pendingSubmission }
    unfold replayEventPlan
    dsimp only
    cases (routeReplayEventMsg event).action with
    | effect effect => cases effect <;> rfl
    | _ => rfl

theorem handleReplayHistory_desk (history : List RolloutItem) (a : ThreadActor) :
    (handleReplayHistory codex history a).desk =
      { a.desk with
        pendingSubmission := (handleReplayHistory codex history a).desk.pendingSubmission } := by
  unfold handleReplayHistory
  induction history generalizing a with
  | nil => rfl
  | cons item history ih =>
    rw [List.foldl_cons, ih, replayItem_desk]

/-- **Messages.** -/
theorem handleMessage_effect (codex : Codex) (a : ThreadActor) (message : ThreadMessage) :
    Effect codex a (a.handleMessage codex message) (.message message) := by
  cases message with
  | load => exact answer_quiet quietFrame.handleLoad_frame
  | getConfigOptions => exact answer_quiet (quiet_reads _)
  | prompt request => exact handlePrompt_effect request rfl rfl (answer_desk ..)
  | steer request => exact handleSteer_effect request (answer_desk ..)
  | controlGoal action =>
    show Effect codex a (a.answer .done (handleGoalControl codex action)) _
    exact answer_quiet ((@quietFrame codex).handleGoalControl_frame action)
  | setMode mode =>
    show Effect codex a
      ((a.answer .done (handleSetMode codex mode)).maybeEmitConfigOptionsUpdate codex) _
    apply Effect.of_quiet
    rw [maybeEmitConfigOptionsUpdate_desk, answer_desk]
    exact quietFrame.handleSetMode_frame mode a
  | setConfigOption configId value =>
    show Effect codex a (a.answer .done (handleSetConfigOption codex configId value)) _
    exact answer_quiet (quietFrame.handleSetConfigOption_frame configId value)
  | cancel => exact clear_effect (.inl ⟨rfl, rfl⟩) rfl
  | shutdown => exact clear_effect (.inr ⟨rfl, rfl⟩) rfl
  | replaceClient => exact answer_quiet (quiet_pure ())
  | replayHistory history =>
    exact .replayed ((answer_desk ..).trans (handleReplayHistory_desk history a))

end Messages

/-! ## Steps -/

theorem isActive_eq (p : PromptState) (w : World) :
    p.isActive w = p.responses.all.any fun waiter => waiter ∉ w.closed := by
  unfold PromptState.isActive PromptResponses.isActive PromptResponses.all
  rw [List.any_append]
  cases p.responses.primary <;> simp

theorem collect_desk (a : ThreadActor) : a.collect.desk = a.desk.collect := by
  unfold ThreadActor.collect
  simp only [isActive_eq]
  rfl

/-- **Every step of the loop is one of the listed effects.** -/
theorem step_effect {codex : Codex} {r r' : Running} {l : Label}
    (h : r.step codex l = some r') : Effect codex r.actor r'.actor l := by
  cases l with
  | message message =>
    simp only [Running.step, Option.ite_none_right_eq_some, Option.some.injEq] at h
    obtain ⟨_, rfl⟩ := h
    exact handleMessage_effect codex r.actor message
  | resolution =>
    simp only [Running.step] at h
    split at h
    next n message rest _ hqueue =>
      cases h
      exact resolution_effect hqueue
    next => cases h
  | noResolution =>
    simp only [Running.step] at h
    split at h
    next =>
      cases h
      exact .idle (.inl rfl) rfl
    next => cases h
  | event event =>
    simp only [Running.step, Option.ite_none_right_eq_some, Option.some.injEq] at h
    obtain ⟨_, rfl⟩ := h
    exact handleEvent_effect codex r.actor event
  | wake =>
    simp only [Running.step, Option.ite_none_right_eq_some, Option.some.injEq] at h
    obtain ⟨_, rfl⟩ := h
    exact .idle (.inr (.inl rfl)) rfl
  | collect =>
    simp only [Running.step, Option.ite_none_right_eq_some, Option.some.injEq] at h
    obtain ⟨_, rfl⟩ := h
    exact .collected (collect_desk r.actor)
  | respond n response =>
    simp only [Running.step, Option.map_eq_some_iff] at h
    obtain ⟨w, hw, rfl⟩ := h
    unfold World.respond at hw
    split at hw
    next submissionId request htask =>
      cases hw
      exact .responded htask rfl rfl
    next => cases hw
  | send n =>
    simp only [Running.step, Option.map_eq_some_iff] at h
    obtain ⟨w, hw, rfl⟩ := h
    unfold World.sendResolved at hw
    split at hw
    next submissionId request response htask =>
      cases hw
      exact .sent htask rfl rfl
    next => cases hw
  | closeReceiver waiter =>
    simp only [Running.step, Option.ite_none_right_eq_some, Option.some.injEq] at h
    obtain ⟨hwaiter, rfl⟩ := h
    exact .closed hwaiter rfl
  | modelsChanged models =>
    cases h
    exact .idle (.inr (.inr ⟨models, rfl⟩)) rfl

end CodexAcp.Thread
