import CodexAcp.Thread.StepEffect

/-!
# What prompts and events do, once

A prompt that does not answer a question makes a waiter, lets its slash command
run, and is then submitted or answered on the spot. Steering does the same when no
turn is active. So the slash command apart (`promptSubmissionForItems`), a prompt
makes few moves. An event, once its updates are in the state, makes the same ones
besides what its submission does. `PromptFrame` asks a relation to be kept by each:

> `handlePrompt_frame`: what a prompt does after its slash command.
> `handleSteer_prompt`: what steering does, and the prompt it falls back to.
> `handlePendingUserInputPrompt_frame`: a prompt that answers a question.
> `plannedEvent_frame`: an event, its updates applied.

Which items a prompt hands to its slash command, and on which actor the command
runs, is `freshPrompt` and `messagePrompt` (`Thread.Effect`).
-/

namespace CodexAcp.Thread

open CodexAcp.Lib CodexAcp.Protocol CodexAcp.Boundary

/-! ## The prompt of a message -/

/-- The prompt a message makes the actor handle, and the actor that handles it. -/
def handledPrompt (codex : Codex) (a : ThreadActor) :
    ThreadMessage → Option (PromptRequest × ThreadActor)
  | .prompt request => some (request, a)
  | .steer request =>
    let items := codex.buildPromptItems request.prompt (some a.config.cwd)
    if request.prompt.isEmpty || items.isEmpty then none
    else if codex.steerInput a.world.calls items = .error .noActiveTurn then
      some (request, a.called)
    else none
  | _ => none

/-- The items of a message are those of the prompt it makes the actor handle. -/
theorem messagePrompt_eq (codex : Codex) (a : ThreadActor) (m : ThreadMessage) :
    messagePrompt codex a m =
      (handledPrompt codex a m).bind fun prompt => freshPrompt codex prompt.1 prompt.2 := by
  cases m with
  | steer request =>
    unfold messagePrompt handledPrompt
    dsimp only
    split
    · rfl
    · split <;> rfl
  | _ => rfl

/-- Before a prompt is handled, nothing but a call was made. -/
theorem handledPrompt_state {codex : Codex} {a b : ThreadActor} {m : ThreadMessage}
    {prompt : PromptRequest} (h : handledPrompt codex a m = some (prompt, b)) :
    b.state = a.state := by
  cases m with
  | prompt request => cases h; rfl
  | steer request =>
    unfold handledPrompt at h
    dsimp only at h
    split at h
    · cases h
    split at h
    · cases h; rfl
    · cases h
  | _ => cases h

/-! ## Moves -/

/-- A relation kept by what a prompt does besides its slash command, and an event
besides its updates. -/
structure PromptFrame (Q : ThreadActor → ThreadActor → Prop) : Prop extends QueryFrame Q where
  accepted : ∀ {op : Op}, op.overrides = none → ∀ id a, Q a (a.accept op id)
  waiter : ∀ a, Q a a.withWaiter
  submissions : ∀ (submissions : Dict String PromptState) (a : ThreadActor),
    Q a { a with submissions := submissions }
  shown : ∀ text a, Q a (ThreadActor.agentText text a)
  result : ∀ (result : PromptResult) (waiter : WaiterId) (a : ThreadActor),
    Q a { a with world := a.world.sendResult result waiter }

namespace PromptFrame

open ThreadActor Handler

variable {codex : Codex} {Q : ThreadActor → ThreadActor → Prop}

theorem submitOk_frame (hQ : PromptFrame Q) {op : Op} (hop : op.overrides = none) :
    Frame Q (submitOk codex op) := by
  intro a
  rw [submitOk_run]
  cases codex.submit a.world.calls op with
  | ok id => exact hQ.accepted hop id a
  | error e => exact hQ.called a

theorem ensureSubmission_frame (hQ : PromptFrame Q) (id : String) (a : ThreadActor) :
    Q a (ensureSubmission id a) := by
  unfold ensureSubmission
  cases a.submissions.lookup id with
  | some _ => exact hQ.refl a
  | none => exact hQ.submissions _ a

/-- A prompt that answers the question the session waits for. -/
theorem handlePendingUserInputPrompt_frame (hQ : PromptFrame Q)
    (hanswered : ∀ a, Q a (clearPendingUserInput a)) (request : PromptRequest) :
    Frame Q (handlePendingUserInputPrompt codex request) := by
  refine hQ.readThen fun a => ?_
  split
  · exact hQ.fail _
  refine hQ.bind hQ.waiter fun waiter => hQ.bind (frame_lift hQ.refl _) fun response => ?_
  refine hQ.bind (frame_update (hQ.ensureSubmission_frame _)) fun _ => ?_
  refine hQ.bind (frame_mapError (hQ.submitOk_frame rfl)) fun _ => hQ.readThen fun a => ?_
  split
  -- The submission is gone after the answer was accepted: the wait ends with an error.
  · exact hQ.bind (frame_update hanswered) fun _ => hQ.fail _
  · refine hQ.bind (frame_update fun a => hQ.submissions _ a) fun _ => ?_
    exact hQ.bind (frame_update hanswered) fun _ => hQ.pure _

theorem submitPrompt_frame (hQ : PromptFrame Q) {op : Op} (hop : op.overrides = none)
    (waiter : WaiterId) : Frame Q (submitPrompt codex op waiter) := by
  refine hQ.bind ?_ fun id => hQ.bind (frame_update fun a => hQ.submissions _ a) fun _ => hQ.pure _
  intro a
  unfold onWorld
  rw [zoom_run, mapError_run]
  unfold World.submit
  cases codex.submit a.world.calls op with
  | ok id => exact hQ.accepted hop id a
  | error e => exact hQ.called a

theorem answerHandled_frame (hQ : PromptFrame Q) (message : AgentText) (waiter : WaiterId) :
    Frame Q (answerHandled message waiter) :=
  fun a => hQ.trans (hQ.shown message a) (hQ.result (.ok .endTurn) waiter _)

/-- **Prompts.** One that answers no question runs its slash command and makes the
moves after it. -/
theorem handlePrompt_frame (hQ : PromptFrame Q) (codex : Codex) (request : PromptRequest)
    (a : ThreadActor) :
    match freshPrompt codex request a with
    | none => handlePrompt codex request a = handlePendingUserInputPrompt codex request a
    | some (items, b) =>
      Q (promptSubmissionForItems codex items b).2 (handlePrompt codex request a).2 := by
  unfold freshPrompt handlePrompt
  rw [bind_run, reads_run]
  dsimp only [id]
  by_cases hquestion : a.state.pendingUserInput.isSome
  · rw [if_pos hquestion, if_pos hquestion]
  rw [if_neg hquestion, if_neg hquestion, bind_run, newWaiter_run]
  dsimp only
  rw [bind_run]
  show Q (promptSubmissionForItems codex _ a.withWaiter).2 _
  -- The op that is submitted overrides no setting, or it could not be one of the moves.
  have hsubmits : Returns SubmitsPrompt (promptSubmissionForItems codex
      (codex.buildPromptItems request.prompt (some a.config.cwd))) :=
    promptSubmissionForItems_submits _
  replace hsubmits := hsubmits a.withWaiter
  rcases hrun : promptSubmissionForItems codex
      (codex.buildPromptItems request.prompt (some a.config.cwd)) a.withWaiter with
    ⟨err | submission, c⟩
  · exact hQ.refl c
  · cases submission with
    | handled message => exact hQ.answerHandled_frame message _ c
    | submit op => exact hQ.submitPrompt_frame (hsubmits _ _ hrun).2 _ c

/-- An approval without asking is an op, if it is anything. -/
theorem autoApproval_frame (hQ : PromptFrame Q) (approval : Option ActorAutoApproval)
    (a : ThreadActor) : Q a (a.maybeAutoApprovePermissionRequest codex approval).2 := by
  unfold maybeAutoApprovePermissionRequest
  split
  · exact hQ.refl a
  split
  · exact hQ.refl a
  next approval => exact hQ.submitOk_frame (by cases approval <;> rfl) a

/-- **Events**, once their updates are in the state: a question, an approval without
asking, or what the submission does. -/
theorem plannedEvent_frame (hQ : PromptFrame Q) {event : Event}
    (hpending : ∀ (pending : Option PendingUserInputRequest) (a : ThreadActor),
      Q a { a with state := { a.state with pendingUserInput := pending } })
    (hrouted : ∀ a : ThreadActor,
      Q a (a.onSubmission event.id (InSubmission.handleEvent codex event.msg)))
    (action : ActorEventAction) (a : ThreadActor) :
    Q a
      (match action with
      | .registerPendingUserInput request => a.registerPendingUserInput codex event.id request
      | .routeToSubmission clearPendingUserInput fullAccessAutoApproval =>
        match a.maybeAutoApprovePermissionRequest codex fullAccessAutoApproval with
        | (true, a) => a
        | (false, a) =>
          let a := a.onSubmission event.id (InSubmission.handleEvent codex event.msg)
          match clearPendingUserInput with
          | .submission =>
            { a with state := a.state.clearPendingUserInputForSubmission event.id }
          | .none => a) := by
  have hclear : ∀ a : ThreadActor,
      Q a { a with state := a.state.clearPendingUserInputForSubmission event.id } := by
    intro a
    unfold ActorState.clearPendingUserInputForSubmission
    split
    · exact hpending none a
    · exact hQ.refl a
  cases action with
  | registerPendingUserInput request => exact hQ.trans (hQ.shown _ a) (hpending _ _)
  | routeToSubmission clear approval =>
    have hauto : Q a (a.maybeAutoApprovePermissionRequest codex approval).2 :=
      hQ.autoApproval_frame approval a
    match hrun : a.maybeAutoApprovePermissionRequest codex approval with
    | (true, b) => rw [hrun] at hauto; dsimp only; rw [hrun]; exact hauto
    | (false, b) =>
      rw [hrun] at hauto
      dsimp only
      rw [hrun]
      dsimp only
      cases clear with
      | none => exact hQ.trans hauto (hrouted b)
      | submission => exact hQ.trans (hQ.trans hauto (hrouted b)) (hclear _)

end PromptFrame

open ThreadActor Handler

/-- **Steering** reaches the running turn, or falls back to a prompt. -/
theorem handleSteer_prompt (codex : Codex) (request : PromptRequest) (a : ThreadActor) :
    match handledPrompt codex a (.steer request) with
    | none => (handleSteer codex request a).2 = a ∨ (handleSteer codex request a).2 = a.called
    | some (prompt, b) =>
      b = a.called ∧ (handleSteer codex request a).2 = (handlePrompt codex prompt b).2 := by
  generalize hc : (handleSteer codex request a).2 = c
  unfold handledPrompt
  unfold handleSteer at hc
  dsimp only
  by_cases hempty : request.prompt.isEmpty
  · rw [if_pos hempty] at hc
    rw [if_pos (by rw [hempty]; rfl)]
    exact .inl hc.symm
  rw [if_neg hempty, bind_run, reads_run] at hc
  dsimp only [id] at hc
  generalize codex.buildPromptItems request.prompt (some a.config.cwd) = items at hc ⊢
  by_cases hitems : items.isEmpty
  · rw [if_pos hitems] at hc
    rw [if_pos (by rw [hitems, Bool.or_true])]
    exact .inl hc.symm
  rw [if_neg hitems, bind_run] at hc
  rw [if_neg (by rw [Bool.or_eq_true]; exact not_or.mpr ⟨hempty, hitems⟩)]
  unfold onWorld at hc
  rw [zoom_run, attempt_run, World.call] at hc
  dsimp only at hc
  cases hsteer : codex.steerInput a.world.calls items with
  | ok _ =>
    rw [hsteer] at hc
    exact .inr hc.symm
  | error err =>
    rw [hsteer] at hc
    cases err with
    | other _ => exact .inr hc.symm
    | noActiveTurn =>
      rw [if_pos rfl]
      refine ⟨rfl, hc.symm.trans ?_⟩
      -- The reply to a steering request says nothing about the prompt's result.
      show ((do let _ ← handlePrompt codex request; pure .startedNewTurn :
        Handler ThreadActor Error SteeringOutcome) a.called).2 = _
      rw [bind_run]
      rcases handlePrompt codex request a.called with ⟨_ | _, c⟩
      · rfl
      · rfl

end CodexAcp.Thread
