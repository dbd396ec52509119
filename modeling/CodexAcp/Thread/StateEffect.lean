import CodexAcp.Thread.PromptFrame

/-!
# What a step does to what the session remembers

Events write what the session remembers: usage, collaboration mode, agents, goal
and the question it waits for. Requests write it too, in three places only:

- a prompt that answers the question (`answersQuestion`),
- a goal request that Codex accepted (`controlledGoal`),
- a mode request that Codex accepted, or `/plan` (`switchedMode`).

Which of the three a message does is told beforehand, by the message, the actor
and the answers of Codex. `SessionView` is what the session remembers, and the
goals the editor was shown:

> `handleMessage_view`: a message that replays no history makes these changes to
> the view and no other.
> `step_view`: and no other step but an event makes any.
-/

namespace CodexAcp.Thread

open CodexAcp.Lib CodexAcp.Protocol CodexAcp.Boundary

/-! ## The view -/

/-- The goals of the notifications that tell the editor about a goal. -/
def goalUpdates (sent : List SessionUpdate) : List (Option ThreadGoal) :=
  sent.filterMap fun
    | .goalUpdate goal => some goal
    | _ => none

/-- What the session remembers of its events and requests: the state but for the
review target and the options last sent. -/
def ActorState.memory (s : ActorState) : ActorState :=
  { s with lastSentConfigOptions := none, reviewBaseBranch := none }

/-- What a session remembers, and the goals it has shown. -/
structure SessionView where
  memory : ActorState
  goals : List (Option ThreadGoal)

def ThreadActor.view (a : ThreadActor) : SessionView :=
  ⟨a.state.memory, goalUpdates a.world.sent⟩

namespace SessionView

/-- The question is answered. -/
def answer (answered : Bool) (v : SessionView) : SessionView :=
  match answered with
  | true => { v with memory := v.memory.clearPendingUserInput }
  | false => v

/-- A goal is remembered, and shown when it is another one. -/
def rememberGoal (goal : Option (Option ThreadGoal)) (v : SessionView) : SessionView :=
  match goal with
  | none => v
  | some goal =>
    if v.memory.currentGoal = goal then v
    else { memory := { v.memory with currentGoal := goal }, goals := v.goals ++ [goal] }

/-- The collaboration mode is switched. -/
def switchMode (kind : Option ModeKind) (v : SessionView) : SessionView :=
  match kind with
  | none => v
  | some kind => { v with memory := { v.memory with activeCollaborationModeKind := some kind } }

end SessionView

/-! ## What a message asks for -/

/-- The message is a prompt that answers the question the session waits for: it
can be read as an answer, and Codex accepts it. -/
def answersQuestion (codex : Codex) (a : ThreadActor) (m : ThreadMessage) : Bool :=
  match handledPrompt codex a m with
  | none => false
  | some (request, b) =>
    match b.state.pendingUserInput with
    | none => false
    | some pendingRequest =>
      match codex.parseRequestUserInputResponse pendingRequest
          (ThreadActor.promptRequestText codex request.prompt) with
      | .error _ => false
      | .ok response =>
        (codex.submit b.world.calls (.userInputAnswer pendingRequest.turnId response)).isOk

/-- There is a question to answer. -/
theorem answersQuestion_pending {codex : Codex} {a : ThreadActor} {m : ThreadMessage}
    (h : answersQuestion codex a m = true) : a.state.pendingUserInput.isSome = true := by
  unfold answersQuestion at h
  cases hhandled : handledPrompt codex a m with
  | none => rw [hhandled] at h; cases h
  | some handled =>
    obtain ⟨prompt, b⟩ := handled
    rw [hhandled] at h
    dsimp only at h
    rw [handledPrompt_state hhandled] at h
    cases hpending : a.state.pendingUserInput with
    | none => rw [hpending] at h; cases h
    | some p => rfl

/-- The goal Codex stores for a change of the goal, if it accepts the change. -/
def acceptedGoal (codex : Codex) (action : GoalControlAction) (a : ThreadActor) :
    Option (Option ThreadGoal) :=
  (ThreadActor.changeThreadGoal codex action a).1.toOption

/-- The goal a goal request stores. -/
def controlledGoal (codex : Codex) (a : ThreadActor) :
    ThreadMessage → Option (Option ThreadGoal)
  | .controlGoal action => if a.goalsEnabled then acceptedGoal codex action a else none
  | _ => none

/-- The collaboration mode a mode id stands for; the ids of presets are none. -/
def requestedMode (mode : SessionModeId) : Option ModeKind :=
  if (approvalPresetIdForAgentMode mode).isSome then none else collaborationModeKindFromId mode

/-- The collaboration mode a `/plan` command asks for. -/
def planMode (rest : String) : ModeKind :=
  let trimmed := Text.trim rest
  if trimmed = "off" || trimmed = "default" || trimmed = "code" then .default else .plan

/-- The collaboration mode the slash command of a prompt asks for. -/
def slashMode (items : List UserInput) : Option ModeKind :=
  match extractSlashCommand items with
  | none => none
  | some (name, rest) => if name = "plan" then some (planMode rest) else none

/-- The collaboration mode a message asks for, and the actor it is set on. -/
def modeRequest (codex : Codex) (a : ThreadActor) (m : ThreadMessage) :
    Option (ModeKind × ThreadActor) :=
  match m with
  | .setMode mode => (requestedMode mode).map (·, a)
  | .setConfigOption configId (.valueId value) =>
    if configId = "mode" then (requestedMode value).map (·, a) else none
  | m =>
    -- Other messages ask for a mode in a slash command, if at all.
    match messagePrompt codex a m with
    | none => none
    | some (items, b) => (slashMode items).map (·, b)

/-- The mode an actor is in after a switch, if Codex has a preset for the mode and
accepts its override. -/
def acceptedMode (codex : Codex) (kind : ModeKind) (a : ThreadActor) : Option ModeKind :=
  match collaborationModeForKind codex kind a.getCurrentModel a.config.modelReasoningEffort with
  | none => none
  | some mode =>
    match codex.submit a.world.calls (overrideCollaborationMode mode) with
    | .ok _ => some kind
    | .error _ => none

/-- The collaboration mode a message switches to. -/
def switchedMode (codex : Codex) (a : ThreadActor) (m : ThreadMessage) : Option ModeKind :=
  (modeRequest codex a m).bind fun request => acceptedMode codex request.1 request.2

/-- What a message makes of the view. -/
def ThreadActor.viewAfter (codex : Codex) (a : ThreadActor) (m : ThreadMessage) : SessionView :=
  ((a.view.answer (answersQuestion codex a m)).rememberGoal (controlledGoal codex a m)).switchMode
    (switchedMode codex a m)

namespace SessionView

theorem answer_memory (answered : Bool) (v : SessionView) :
    (v.answer answered).memory =
      { v.memory with
        pendingUserInput := if answered then none else v.memory.pendingUserInput } := by
  cases answered <;> rfl

theorem rememberGoal_memory (goal : Option (Option ThreadGoal)) (v : SessionView) :
    (v.rememberGoal goal).memory =
      { v.memory with currentGoal := goal.getD v.memory.currentGoal } := by
  unfold rememberGoal
  cases goal with
  | none => rfl
  | some goal =>
    dsimp only [Option.getD]
    split
    next h => rw [← h]
    next => rfl

theorem switchMode_memory (kind : Option ModeKind) (v : SessionView) :
    (v.switchMode kind).memory =
      { v.memory with
        activeCollaborationModeKind := kind.or v.memory.activeCollaborationModeKind } := by
  cases kind <;> rfl

end SessionView

/-- **What a message remembers**, field by field. -/
theorem viewAfter_memory (codex : Codex) (a : ThreadActor) (m : ThreadMessage) :
    (a.viewAfter codex m).memory =
      { a.state.memory with
        pendingUserInput :=
          if answersQuestion codex a m then none else a.state.pendingUserInput
        currentGoal := (controlledGoal codex a m).getD a.state.currentGoal
        activeCollaborationModeKind :=
          (switchedMode codex a m).or a.state.activeCollaborationModeKind } := by
  unfold ThreadActor.viewAfter
  rw [SessionView.switchMode_memory, SessionView.rememberGoal_memory, SessionView.answer_memory]
  rfl

/-! ## Moves that leave the view alone -/

/-- The view stayed. -/
def SameView (a b : ThreadActor) : Prop := b.view = a.view

section Frames

open ThreadActor

variable {codex : Codex}

/-- Notifications that tell no goal leave the goals shown alone. -/
theorem sendNotification_sameView (update : SessionUpdate) (h : ∀ goal, update ≠ .goalUpdate goal)
    (a : ThreadActor) : SameView a (sendNotification update a) := by
  have hgoals : goalUpdates (a.world.sent ++ [update]) = goalUpdates a.world.sent := by
    unfold goalUpdates
    rw [List.filterMap_append]
    cases update with
    | goalUpdate goal => exact absurd rfl (h goal)
    | agentMessageChunk | agentThoughtChunk | configOptionUpdate | toolCall | toolCallUpdate => simp
  exact congrArg (SessionView.mk a.state.memory) hgoals

theorem sameViewQueries : QueryFrame SameView where
  refl _ := rfl
  trans h h' := Eq.trans h' h
  called _ := rfl
  saved _ _ := rfl

theorem sameViewPrompts : PromptFrame SameView where
  toQueryFrame := sameViewQueries
  accepted _ _ _ := rfl
  waiter _ := rfl
  submissions _ _ := rfl
  shown text a := sendNotification_sameView (.agentMessageChunk text) nofun a
  result result waiter a := by
    unfold SameView World.sendResult
    split <;> rfl

theorem emit_sameView (a : ThreadActor) : SameView a (a.maybeEmitConfigOptionsUpdate codex) := by
  unfold maybeEmitConfigOptionsUpdate
  dsimp only
  split
  · rfl
  · exact sendNotification_sameView (.configOptionUpdate _) nofun _

/-- Whoever sets no mode and no goal leaves the view alone. -/
theorem sameViewSettings : PlainSettingsFrame codex SameView where
  toQueryFrame := sameViewQueries
  plainSetting h hmode id := by
    cases h with
    | collaborationMode => cases hmode
    | selection | reasoningEffort | serviceTier | approvalPreset => rfl
  permissions _ _ := rfl
  reviewBranch _ _ := rfl
  emit := emit_sameView

theorem answer_sameView {α : Type} (toReply : Except Error α → Reply)
    (x : Handler ThreadActor Error α) (a : ThreadActor) : SameView (x a).2 (a.answer toReply x) :=
  rfl

end Frames

/-! ## Requests -/

section Requests

open ThreadActor Handler

variable {codex : Codex}

/-- **Modes.** A switch that Codex accepts, and nothing otherwise. -/
theorem applyCollaborationModeKind_view (kind : ModeKind) (a : ThreadActor) :
    (applyCollaborationModeKind codex kind a).2.view =
      a.view.switchMode (acceptedMode codex kind a) := by
  unfold applyCollaborationModeKind acceptedMode
  rw [bind_run, reads_run]
  dsimp only [id]
  cases collaborationModeForKind codex kind a.getCurrentModel a.config.modelReasoningEffort with
  | none => rfl
  | some mode =>
    dsimp only
    rw [bind_run, submitOk_run]
    cases codex.submit a.world.calls (overrideCollaborationMode mode) <;> rfl

theorem handleSetMode_view (mode : SessionModeId) (a : ThreadActor) :
    (handleSetMode codex mode a).2.view = a.view.switchMode
      ((requestedMode mode).bind fun kind => acceptedMode codex kind a) := by
  unfold handleSetMode requestedMode
  cases approvalPresetIdForAgentMode mode with
  | some preset => exact sameViewSettings.handleSetApprovalPreset_frame preset a
  | none =>
    cases collaborationModeKindFromId mode with
    | none => rfl
    | some kind => exact applyCollaborationModeKind_view kind a

/-- **Goals.** A change that Codex accepts is remembered, and shown when it is another
goal. -/
theorem rememberGoal_view (goal : Option ThreadGoal) (a : ThreadActor) :
    (rememberGoal goal a).view = a.view.rememberGoal (some goal) := by
  unfold rememberGoal ActorState.updateGoal SessionView.rememberGoal
  dsimp only
  by_cases h : a.state.currentGoal = goal
  · rw [if_pos h, if_pos (show a.view.memory.currentGoal = goal from h)]
    rfl
  · rw [if_neg h, if_neg (show ¬ a.view.memory.currentGoal = goal from h)]
    unfold view
    simp [sendNotification, World.sendNotification, goalUpdates, ActorState.memory]

theorem changeThreadGoal_sameView (action : GoalControlAction) :
    Frame SameView (changeThreadGoal codex action) := by
  cases action <;> exact sameViewQueries.map (sameViewQueries.call _)

theorem handleGoalControl_view (action : GoalControlAction) (a : ThreadActor) :
    (handleGoalControl codex action a).2.view =
      a.view.rememberGoal (controlledGoal codex a (.controlGoal action)) := by
  unfold handleGoalControl controlledGoal acceptedGoal
  rw [bind_run, reads_run]
  dsimp only [id]
  by_cases henabled : a.goalsEnabled
  · rw [if_neg (by rw [henabled]; nofun), if_pos henabled, bind_run]
    have hsame : (changeThreadGoal codex action a).2.view = a.view :=
      changeThreadGoal_sameView action a
    match hrun : changeThreadGoal codex action a with
    | (.ok goal, b) =>
      rw [hrun] at hsame
      rw [← hsame]
      exact rememberGoal_view goal b
    | (.error e, b) =>
      rw [hrun] at hsame
      exact hsame
  · rw [if_pos (by simpa using henabled), if_neg henabled]
    rfl

/-- **Answers.** A prompt that answers the question ends the wait for it. -/
theorem handlePendingUserInputPrompt_view (request : PromptRequest) (a : ThreadActor) :
    (handlePendingUserInputPrompt codex request a).2.view =
      a.view.answer (answersQuestion codex a (.prompt request)) := by
  unfold answersQuestion handledPrompt
  cases hpending : a.state.pendingUserInput with
  | none =>
    unfold handlePendingUserInputPrompt
    rw [bind_run, reads_run]
    dsimp only [id]
    rw [hpending]
    rfl
  | some pendingRequest =>
    obtain ⟨b, p, hb, -, hrun⟩ := handlePendingUserInputPrompt_run codex request hpending
    -- Up to the answer only a waiter and a submission were made.
    have hview : b.view = a.view := by
      rw [hb]
      exact sameViewPrompts.ensureSubmission_frame pendingRequest.submissionId a.withWaiter
    rw [hrun]
    dsimp only
    rw [hpending]
    dsimp only
    cases codex.parseRequestUserInputResponse pendingRequest
        (promptRequestText codex request.prompt) with
    | error err => rfl
    | ok response =>
      dsimp only
      cases codex.submit a.world.calls (.userInputAnswer pendingRequest.turnId response) with
      | error err => exact hview
      | ok submissionId => exact congrArg (SessionView.answer true) hview

theorem switchCollaborationModeAndEmit_view (kind : ModeKind) (a : ThreadActor) :
    (switchCollaborationModeAndEmit codex kind a).2.view =
      a.view.switchMode (acceptedMode codex kind a) := by
  unfold switchCollaborationModeAndEmit
  have happly : (applyCollaborationModeKind codex kind a).2.view = _ :=
    applyCollaborationModeKind_view kind a
  rw [bind_run]
  match hrun : applyCollaborationModeKind codex kind a with
  | (.ok (), b) =>
    rw [hrun] at happly
    exact (emit_sameView b).trans happly
  | (.error e, b) =>
    rw [hrun] at happly
    exact happly

theorem handlePlanCommand_view (rest : String) (items : List UserInput) (a : ThreadActor) :
    (handlePlanCommand codex rest items a).2.view =
      a.view.switchMode (acceptedMode codex (planMode rest) a) := by
  have hswitch : ∀ (kind : ModeKind) (submission : PromptSubmission),
      ((do switchCollaborationModeAndEmit codex kind
           pure submission : Handler ThreadActor Error PromptSubmission) a).2.view =
        a.view.switchMode (acceptedMode codex kind a) := by
    intro kind submission
    rw [← switchCollaborationModeAndEmit_view kind a, bind_run]
    match switchCollaborationModeAndEmit codex kind a with
    | (.ok _, b) => rfl
    | (.error _, b) => rfl
  unfold handlePlanCommand planMode
  dsimp only
  generalize Text.trim rest = trimmed
  by_cases hon : (decide (trimmed = "") || decide (trimmed = "on")) = true
  · rw [if_pos hon, if_neg]
    · exact hswitch .plan _
    · -- Neither the empty text nor `on` is one of the three that switch back.
      simp only [Bool.or_eq_true, decide_eq_true_eq] at hon ⊢
      rcases hon with rfl | rfl <;> simp
  · rw [if_neg hon]
    by_cases hoff : (decide (trimmed = "off") || decide (trimmed = "default") ||
        decide (trimmed = "code")) = true
    · rw [if_pos hoff, if_pos hoff]
      exact hswitch .default _
    · rw [if_neg hoff, if_neg hoff]
      exact hswitch .plan _

/-- The slash command of a prompt switches the mode, or leaves the view alone. -/
theorem slashCommand_view (items : List UserInput) (a : ThreadActor) :
    (promptSubmissionForItems codex items a).2.view =
      a.view.switchMode ((slashMode items).bind fun kind => acceptedMode codex kind a) := by
  unfold promptSubmissionForItems slashMode
  cases extractSlashCommand items with
  | none => rfl
  | some command =>
    obtain ⟨name, rest⟩ := command
    dsimp only
    by_cases hname : name = "plan"
    · rw [if_pos hname, hname, SettingsFrame.handleSlashCommand_plan]
      exact handlePlanCommand_view rest items a
    · rw [if_neg hname]
      exact sameViewSettings.handleSlashCommand_plain hname rest items a

/-- **Prompts.** -/
theorem handlePrompt_view (request : PromptRequest) (a : ThreadActor) :
    (handlePrompt codex request a).2.view =
      (a.view.answer (answersQuestion codex a (.prompt request))).switchMode
        (switchedMode codex a (.prompt request)) := by
  have hprompt := sameViewPrompts.handlePrompt_frame codex request a
  have hmode : modeRequest codex a (.prompt request) =
      match freshPrompt codex request a with
      | none => none
      | some (items, b) => (slashMode items).map (·, b) := rfl
  unfold switchedMode
  rw [hmode]
  cases hquestion : a.state.pendingUserInput with
  | some pendingRequest =>
    -- A question is open: the prompt is an answer to it, and no slash command.
    have hfresh : freshPrompt codex request a = none := by
      unfold freshPrompt
      rw [hquestion]
      rfl
    rw [hfresh] at hprompt ⊢
    dsimp only at hprompt
    rw [hprompt]
    exact handlePendingUserInputPrompt_view request a
  | none =>
    have hfresh : freshPrompt codex request a =
        some (codex.buildPromptItems request.prompt (some a.config.cwd), a.withWaiter) := by
      unfold freshPrompt
      rw [hquestion]
      rfl
    have hanswer : answersQuestion codex a (.prompt request) = false := by
      unfold answersQuestion handledPrompt
      dsimp only
      rw [hquestion]
    rw [hfresh] at hprompt ⊢
    rw [hanswer]
    dsimp only at hprompt ⊢
    refine Eq.trans hprompt ?_
    rw [slashCommand_view]
    cases slashMode (codex.buildPromptItems request.prompt (some a.config.cwd)) <;> rfl

/-- Steering that falls back to a prompt asks for what the prompt asks for. -/
theorem steer_asks {a b : ThreadActor} {request prompt : PromptRequest}
    (h : handledPrompt codex a (.steer request) = some (prompt, b)) :
    answersQuestion codex a (.steer request) = answersQuestion codex b (.prompt prompt) ∧
      switchedMode codex a (.steer request) = switchedMode codex b (.prompt prompt) := by
  constructor
  · unfold answersQuestion
    rw [h]
    rfl
  · unfold switchedMode modeRequest
    dsimp only
    rw [messagePrompt_eq, h]
    rfl

/-- **Steering.** -/
theorem handleSteer_view (request : PromptRequest) (a : ThreadActor) :
    (handleSteer codex request a).2.view =
      (a.view.answer (answersQuestion codex a (.steer request))).switchMode
        (switchedMode codex a (.steer request)) := by
  have hsteer := handleSteer_prompt codex request a
  cases hhandled : handledPrompt codex a (.steer request) with
  | none =>
    have hanswer : answersQuestion codex a (.steer request) = false := by
      unfold answersQuestion
      rw [hhandled]
    have hmode : switchedMode codex a (.steer request) = none := by
      unfold switchedMode modeRequest
      dsimp only
      rw [messagePrompt_eq, hhandled]
      rfl
    rw [hhandled] at hsteer
    rw [hanswer, hmode]
    rcases hsteer with h | h
    · rw [h]; rfl
    · rw [h]; rfl
  | some handled =>
    obtain ⟨prompt, b⟩ := handled
    obtain ⟨hanswer, hmode⟩ := steer_asks hhandled
    rw [hhandled] at hsteer
    obtain ⟨rfl, h⟩ := hsteer
    rw [hanswer, hmode, h]
    exact handlePrompt_view prompt a.called

end Requests

/-! ## Permission responses -/

section Responses

open Handler

variable {codex : Codex}

theorem inSubmission_submitOk_sent (op : Op) (c : InSubmission) :
    (InSubmission.submitOk codex op c).2.world.sent = c.world.sent := by
  unfold InSubmission.submitOk
  rw [zoom_run, World.submitOk_run]
  cases codex.submit c.world.calls op <;> rfl

/-- A method that ends the prompt with its error tells the editor what the method tells. -/
theorem orSendResult_sent {x : Handler InSubmission Error Unit} {c : InSubmission}
    (hx : (x c).2.world.sent = c.world.sent) :
    (InSubmission.orSendResult x c).world.sent = c.world.sent := by
  unfold InSubmission.orSendResult
  match h : x c with
  | (.ok (), c') => rw [h] at hx; exact hx
  | (.error err, c') => rw [h] at hx; dsimp only; rw [sendResult_eq]; exact hx

theorem submission_resolved_sent (codex : Codex) (requestKey : String)
    (response : PermissionResult) (c : InSubmission) :
    (InSubmission.handlePermissionRequestResolved codex requestKey response c).2.world.sent =
      c.world.sent := by
  rw [handlePermissionRequestResolved_run]
  cases c.self.permissionInteractions.lookup requestKey with
  | none => rfl
  | some i =>
    cases response with
    | error err => rfl
    | ok response => exact inSubmission_submitOk_sent _ _

/-- A permission response tells the editor nothing. -/
theorem resolved_view (message : PermissionRequestResolved) (a : ThreadActor) :
    (a.handlePermissionRequestResolved codex message).view = a.view := by
  unfold ThreadActor.handlePermissionRequestResolved ThreadActor.onSubmission
  cases a.submissions.lookup message.submissionId with
  | none => rfl
  | some p =>
    dsimp only
    have hsent := submission_resolved_sent codex message.requestKey message.response ⟨p, a.world⟩
    -- The state is not touched, so only what was sent is left to compare.
    refine congrArg (fun sent => SessionView.mk a.state.memory (goalUpdates sent)) ?_
    match hrun : InSubmission.handlePermissionRequestResolved codex message.requestKey
        message.response ⟨p, a.world⟩ with
    | (.ok (), c) =>
      rw [hrun] at hsent
      rw [orFail_ok hrun]
      exact hsent
    | (.error err, c) =>
      rw [hrun] at hsent
      rw [orFail_error hrun, finish_eq]
      exact hsent

end Responses

/-! ## Messages and steps -/

section Messages

open ThreadActor Handler

variable {codex : Codex}

/-- The message replays a history. -/
def replaysHistory : ThreadMessage → Bool
  | .replayHistory _ => true
  | _ => false

theorem setMode_view (mode : SessionModeId) (a : ThreadActor) :
    (handleSetMode codex mode a).2.view = a.viewAfter codex (.setMode mode) := by
  rw [handleSetMode_view]
  unfold viewAfter switchedMode modeRequest
  dsimp only
  cases requestedMode mode <;> rfl

theorem setConfigOption_view (configId : SessionConfigId) (value : SessionConfigOptionValue)
    (a : ThreadActor) :
    (handleSetConfigOption codex configId value a).2.view =
      a.viewAfter codex (.setConfigOption configId value) := by
  cases value with
  | other => rfl
  | valueId value =>
    unfold viewAfter switchedMode modeRequest
    dsimp only
    by_cases hid : configId = "mode"
    · rw [if_pos hid]
      unfold handleSetConfigOption
      dsimp only
      rw [if_pos hid, handleSetMode_view]
      cases requestedMode value <;> rfl
    · rw [if_neg hid]
      exact sameViewSettings.handleSetConfigOption_plain hid _ a

/-- Cancelling and shutting down submit an op, and that is all. -/
theorem abort_sameView {op : Op} (hop : op.overrides = none) :
    Frame SameView (do
      update abortPendingInteractions
      submitOk codex op : Handler ThreadActor Error Unit) :=
  sameViewQueries.bind (frame_update fun _ => rfl) fun _ => sameViewPrompts.submitOk_frame hop

/-- **Messages.** One that replays no history answers the question, remembers a goal
or switches the mode, as told beforehand, and nothing else. -/
theorem handleMessage_view (codex : Codex) (a : ThreadActor) {m : ThreadMessage}
    (hm : replaysHistory m = false) :
    (a.handleMessage codex m).view = a.viewAfter codex m := by
  cases m with
  | load => exact sameViewSettings.handleLoad_frame a
  | getConfigOptions => rfl
  | prompt request => exact (answer_sameView ..).trans (handlePrompt_view request a)
  | steer request => exact (answer_sameView ..).trans (handleSteer_view request a)
  | controlGoal action => exact (answer_sameView ..).trans (handleGoalControl_view action a)
  | setMode mode =>
    exact (emit_sameView _).trans ((answer_sameView ..).trans (setMode_view mode a))
  | setConfigOption configId value =>
    exact (answer_sameView ..).trans (setConfigOption_view configId value a)
  | cancel => exact abort_sameView rfl a
  | shutdown => exact abort_sameView rfl a
  | replaceClient => rfl
  | replayHistory history => cases hm

/-- What a step that handles no event makes of the view. -/
def ThreadActor.viewAfterStep (codex : Codex) (a : ThreadActor) : Label → SessionView
  | .message m => a.viewAfter codex m
  | _ => a.view

/-- The step handles an event, live or from a history. -/
def handlesEvents : Label → Bool
  | .event _ => true
  | .message m => replaysHistory m
  | _ => false

/-- **Every step but an event** makes of the view what its message does. -/
theorem step_view {r r' : Running} {l : Label} (hl : handlesEvents l = false)
    (h : r.step codex l = some r') : r'.actor.view = r.actor.viewAfterStep codex l := by
  cases l with
  | event event => cases hl
  | message m =>
    simp only [Running.step, Option.ite_none_right_eq_some, Option.some.injEq] at h
    obtain ⟨_, rfl⟩ := h
    exact handleMessage_view codex r.actor hl
  | resolution =>
    simp only [Running.step] at h
    split at h
    next n message rest _ hqueue =>
      cases h
      exact resolved_view message _
    next => cases h
  | noResolution =>
    simp only [Running.step] at h
    split at h
    · cases h; rfl
    · cases h
  | wake | collect =>
    simp only [Running.step, Option.ite_none_right_eq_some, Option.some.injEq] at h
    obtain ⟨_, rfl⟩ := h
    rfl
  | respond n response =>
    simp only [Running.step, Option.map_eq_some_iff] at h
    obtain ⟨w, hw, rfl⟩ := h
    unfold World.respond at hw
    split at hw
    · cases hw; rfl
    · cases hw
  | send n =>
    simp only [Running.step, Option.map_eq_some_iff] at h
    obtain ⟨w, hw, rfl⟩ := h
    unfold World.sendResolved at hw
    split at hw
    · cases hw; rfl
    · cases hw
  | closeReceiver waiter =>
    simp only [Running.step, Option.ite_none_right_eq_some, Option.some.injEq] at h
    obtain ⟨_, rfl⟩ := h
    rfl
  | modelsChanged models =>
    cases h
    rfl

end Messages

end CodexAcp.Thread
