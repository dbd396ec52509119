import CodexAcp.Thread.Overrides
import CodexAcp.Thread.PromptFrame

/-!
# What a step does to the settings

Most steps of an actor leave its settings alone, what it tells the editor about
them, and what it tells Codex about them (`KeepsSettings`). The others are listed
once in `SettingsEffect`: a request to load the session, to set a mode or an
option, a prompt whose slash command changes a setting before the prompt is
submitted, the start of a turn, which tells the actor the collaboration mode, and
other answers of the models manager.

> `settings_effect`: every step of the loop is one of these.
-/

namespace CodexAcp.Thread

open CodexAcp.Lib CodexAcp.Protocol CodexAcp.Boundary

/-- The options of the notifications that tell the editor about options. -/
def configUpdates (sent : List SessionUpdate) : List (List SessionConfigOption) :=
  sent.filterMap fun
    | .configOptionUpdate options => some options
    | _ => none

/-! ## Leaving the settings alone -/

/-- No override was accepted. -/
def NoOverride (accepted accepted' : List (Op × String)) : Prop :=
  ∃ ops, accepted' = accepted ++ ops ∧ ∀ o ∈ ops, o.1.overrides = none

theorem NoOverride.refl (accepted : List (Op × String)) : NoOverride accepted accepted :=
  ⟨[], (List.append_nil _).symm, by simp⟩

theorem NoOverride.trans {l l' l'' : List (Op × String)} (h : NoOverride l l')
    (h' : NoOverride l' l'') : NoOverride l l'' := by
  obtain ⟨ops, rfl, hops⟩ := h
  obtain ⟨ops', rfl, hops'⟩ := h'
  refine ⟨ops ++ ops', List.append_assoc .., fun o ho => ?_⟩
  rcases List.mem_append.mp ho with h | h
  · exact hops o h
  · exact hops' o h

/-- The world of an actor whose settings nobody was told about. -/
structure WorldKeeps (w w' : World) : Prop where
  models : w'.models = w.models
  told : configUpdates w'.sent = configUpdates w.sent
  accepted : NoOverride w.accepted w'.accepted

theorem WorldKeeps.refl (w : World) : WorldKeeps w w := ⟨rfl, rfl, .refl _⟩

theorem WorldKeeps.trans {w w' w'' : World} (h : WorldKeeps w w') (h' : WorldKeeps w' w'') :
    WorldKeeps w w'' :=
  ⟨h'.models.trans h.models, h'.told.trans h.told, h.accepted.trans h'.accepted⟩

/-- The settings stayed, up to the collaboration mode, and nobody was told
anything about them. -/
structure KeepsButMode (a a' : ThreadActor) : Prop where
  config : a'.config = a.config
  lastSent : a'.state.lastSentConfigOptions = a.state.lastSentConfigOptions
  world : WorldKeeps a.world a'.world

theorem KeepsButMode.trans {a b c : ThreadActor} (h : KeepsButMode a b)
    (h' : KeepsButMode b c) : KeepsButMode a c :=
  ⟨h'.config.trans h.config, h'.lastSent.trans h.lastSent, h.world.trans h'.world⟩

/-- The settings stayed, and nobody was told anything about them. -/
structure KeepsSettings (a a' : ThreadActor) : Prop extends KeepsButMode a a' where
  modeKind : a'.state.activeCollaborationModeKind = a.state.activeCollaborationModeKind

theorem KeepsSettings.refl (a : ThreadActor) : KeepsSettings a a := ⟨⟨rfl, rfl, .refl _⟩, rfl⟩

theorem KeepsSettings.trans {a b c : ThreadActor} (h : KeepsSettings a b)
    (h' : KeepsSettings b c) : KeepsSettings a c :=
  ⟨h.toKeepsButMode.trans h'.toKeepsButMode, h'.modeKind.trans h.modeKind⟩

/-- The same settings in a world nobody told anything. -/
theorem KeepsSettings.of_world {a : ThreadActor} {w : World} (h : WorldKeeps a.world w) :
    KeepsSettings a { a with world := w } :=
  ⟨⟨rfl, rfl, h⟩, rfl⟩

theorem KeepsSettings.of_submissions {a : ThreadActor} (submissions : Dict String PromptState) :
    KeepsSettings a { a with submissions := submissions } :=
  ⟨⟨rfl, rfl, .refl _⟩, rfl⟩

theorem worldKeeps_submit {codex : Codex} {op : Op} (hop : op.overrides = none) (w : World) :
    WorldKeeps w (World.submitOk codex op w).2 := by
  rw [World.submitOk_run]
  split
  next id _ => exact ⟨rfl, rfl, [(op, id)], rfl, by simpa using hop⟩
  next => exact ⟨rfl, rfl, .refl _⟩

/-! ## Submissions leave the settings alone -/

section Submissions

variable {codex : Codex} {c : InSubmission}

theorem sendResult_keeps (result : PromptResult) (c : InSubmission) :
    WorldKeeps c.world (c.sendResult result).world := by
  rw [sendResult_eq]
  exact ⟨rfl, rfl, .refl _⟩

theorem finish_keeps (result : PromptResult) (c : InSubmission) :
    WorldKeeps c.world (c.finish result).world := by
  rw [finish_eq]
  exact ⟨rfl, rfl, .refl _⟩

theorem inSubmission_submitOk_keeps {op : Op} (hop : op.overrides = none) (c : InSubmission) :
    WorldKeeps c.world (InSubmission.submitOk codex op c).2.world :=
  worldKeeps_submit hop c.world

/-- A method that ends the prompt with its error keeps what the method keeps. -/
theorem orSendResult_keeps {x : Handler InSubmission Error Unit}
    (hx : WorldKeeps c.world (x c).2.world) :
    WorldKeeps c.world (InSubmission.orSendResult x c).world := by
  unfold InSubmission.orSendResult
  match h : x c with
  | (.ok (), c') => rw [h] at hx; exact hx
  | (.error err, c') => rw [h] at hx; exact hx.trans (sendResult_keeps _ c')

theorem orFail_keeps {x : Handler InSubmission Error Unit}
    (hx : WorldKeeps c.world (x c).2.world) :
    WorldKeeps c.world (InSubmission.orFail x c).world := by
  match h : x c with
  | (.ok (), c') => rw [h] at hx; rw [orFail_ok h]; exact hx
  | (.error err, c') => rw [h] at hx; rw [orFail_error h]; exact hx.trans (finish_keeps _ c')

/-- An effect other than a list of options tells nothing about settings. -/
theorem executeBridgeEffect_keeps {effect : BridgeEffect}
    (h : ∀ options, effect ≠ .forward (.configOptionUpdate options)) (w : World) :
    WorldKeeps w (w.executeBridgeEffect effect) := by
  cases effect with
  | rendered => exact .refl w
  | forward update =>
    refine ⟨rfl, ?_, .refl _⟩
    cases update with
    | configOptionUpdate options => exact absurd rfl (h options)
    | agentMessageChunk _ | agentThoughtChunk _ | goalUpdate _ | toolCall _ | toolCallUpdate _ =>
      simp [World.executeBridgeEffect, World.sendNotification, configUpdates]

theorem shownEffect_keeps (msg : EventMsg) (w : World) :
    WorldKeeps w (w.executeBridgeEffect (shownEffect msg)) := by
  refine executeBridgeEffect_keeps (fun options => ?_) w
  cases msg
  case threadRolledBack event =>
    show threadRolledBack event ≠ _
    unfold threadRolledBack
    split <;> exact nofun
  case exitedReviewMode event =>
    obtain ⟨reviewOutput⟩ := event
    cases reviewOutput <;> exact nofun
  all_goals exact nofun

/-- Nothing replayed tells about settings. -/
theorem replayEffect_keeps {msg : EventMsg} {effect : BridgeEffect}
    (h : routeReplayEventAction msg = .effect effect) (w : World) :
    WorldKeeps w (w.executeBridgeEffect effect) := by
  refine executeBridgeEffect_keeps (fun options => ?_) w
  rintro rfl
  unfold routeReplayEventAction at h
  split at h <;> first | cases h | (split at h <;> cases h)

theorem submission_handleEvent_keeps (codex : Codex) (msg : EventMsg) (c : InSubmission) :
    WorldKeeps c.world (InSubmission.handleEvent codex msg c).world := by
  have hhandled := handleEvent_handled codex msg c
  generalize InSubmission.handleEvent codex msg c = c' at hhandled
  cases hhandled with
  | requested => exact ⟨rfl, rfl, .refl _⟩
  | contentFailed => exact sendResult_keeps _ c
  | declined => exact orSendResult_keeps (inSubmission_submitOk_keeps rfl c)
  | finished => exact finish_keeps _ c
  | passed => exact shownEffect_keeps msg c.world

theorem submission_resolved_keeps (codex : Codex) (requestKey : String)
    (response : PermissionResult) (c : InSubmission) :
    WorldKeeps c.world
      (InSubmission.handlePermissionRequestResolved codex requestKey response c).2.world := by
  rw [handlePermissionRequestResolved_run]
  cases c.self.permissionInteractions.lookup requestKey with
  | none => exact .refl _
  | some i =>
    cases response with
    | error err => exact .refl _
    | ok response =>
      refine worldKeeps_submit ?_ c.world
      cases i.request <;> rfl

end Submissions

/-! ## Calls, goals and prompts -/

section Frames

open ThreadActor

variable {codex : Codex}

/-- The actor's settings in another session state. -/
theorem KeepsSettings.of_state {a : ThreadActor} {s : ActorState}
    (hmode : s.activeCollaborationModeKind = a.state.activeCollaborationModeKind)
    (hsent : s.lastSentConfigOptions = a.state.lastSentConfigOptions) :
    KeepsSettings a { a with state := s } :=
  ⟨⟨rfl, hsent, .refl _⟩, hmode⟩

theorem agentText_keeps (text : AgentText) (a : ThreadActor) :
    KeepsSettings a (a.agentText text) := by
  refine .of_world ⟨rfl, ?_, .refl _⟩
  simp [World.sendNotification, configUpdates]

theorem withWaiter_keeps (a : ThreadActor) : KeepsSettings a a.withWaiter :=
  .of_world ⟨rfl, rfl, .refl _⟩

theorem called_keeps (a : ThreadActor) : KeepsSettings a a.called :=
  .of_world ⟨rfl, rfl, .refl _⟩

theorem saved_keeps (value : Option String) (a : ThreadActor) : KeepsSettings a (a.saved value) :=
  .of_world ⟨rfl, rfl, .refl _⟩

theorem rememberGoal_keeps (goal : Option ThreadGoal) (a : ThreadActor) :
    KeepsSettings a (rememberGoal goal a) := by
  unfold rememberGoal ActorState.updateGoal
  by_cases h : a.state.currentGoal = goal
  · rw [if_pos h]
    exact .refl a
  · rw [if_neg h]
    refine (KeepsSettings.of_state (a := a)
      (s := { a.state with currentGoal := goal }) rfl rfl).trans (.of_world ⟨rfl, ?_, .refl _⟩)
    simp [World.sendNotification, configUpdates]

/-- Calls and goals leave the settings alone. -/
theorem keepsFrame : CallFrame KeepsSettings where
  refl := .refl
  trans h h' := h.trans h'
  called := called_keeps
  saved a value := saved_keeps value a
  goal := rememberGoal_keeps

/-- What a prompt does besides its slash command leaves the settings alone. -/
theorem keepsPromptFrame : PromptFrame KeepsSettings where
  toQueryFrame := keepsFrame.toQueryFrame
  accepted hop id a := .of_world ⟨rfl, rfl, [(_, id)], rfl, by simpa using hop⟩
  waiter := withWaiter_keeps
  submissions _ _ := .of_submissions _
  shown := agentText_keeps
  result result waiter a := by
    refine .of_world ?_
    unfold World.sendResult
    split
    · exact .refl _
    · exact ⟨rfl, rfl, .refl _⟩

end Frames

/-! ## Events -/

section Events

open ThreadActor

variable {codex : Codex} {a : ThreadActor}

theorem onSubmission_keeps {id : String} {f : InSubmission → InSubmission}
    (hf : ∀ p, WorldKeeps a.world (f ⟨p, a.world⟩).world) :
    KeepsSettings a (a.onSubmission id f) := by
  unfold onSubmission
  cases a.submissions.lookup id with
  | none => exact .refl a
  | some p => exact ⟨⟨rfl, rfl, hf p⟩, rfl⟩

theorem resolved_keeps (codex : Codex) (message : PermissionRequestResolved) (a : ThreadActor) :
    KeepsSettings a (a.handlePermissionRequestResolved codex message) :=
  onSubmission_keeps fun p => orFail_keeps
    (submission_resolved_keeps codex message.requestKey message.response ⟨p, a.world⟩)

/-- The events that tell the actor a collaboration mode. -/
def startsTurn : EventMsg → Bool
  | .turnStarted _ => true
  | _ => false

theorem actorStateUpdates_modeKind {msg : EventMsg} (h : startsTurn msg = false) :
    ∀ update ∈ actorStateUpdates msg, ∀ kind, update ≠ .collaborationMode kind := by
  intro update hmem kind
  rintro rfl
  cases msg
  case turnStarted => cases h
  case collabAgentSpawnEnd event =>
    dsimp only [actorStateUpdates] at hmem
    split at hmem <;> simp at hmem
  case collabWaitingEnd event =>
    dsimp only [actorStateUpdates] at hmem
    split at hmem <;> simp at hmem
  all_goals simp [actorStateUpdates] at hmem

/-- Only the start of a turn writes the collaboration mode. -/
theorem applyEventUpdates_modeKind {msg : EventMsg} (h : startsTurn msg = false)
    (s : ActorState) :
    (s.applyEventUpdates (actorStateUpdates msg)).activeCollaborationModeKind =
      s.activeCollaborationModeKind := by
  rw [ActorState.applyEventUpdates_eq]
  refine foldl_write_of_none (fun update hmem => ?_) _
  have hmode := actorStateUpdates_modeKind h update hmem
  cases update with
  | collaborationMode kind => exact absurd rfl (hmode kind)
  | latestUsage | rememberCollabAgent | rememberCollabAgentEntries | removeCollabAgent
  | goalSnapshot => rfl

theorem applyEventUpdates_lastSent (s : ActorState) (updates : List ActorStateUpdate) :
    (s.applyEventUpdates updates).lastSentConfigOptions = s.lastSentConfigOptions :=
  (ActorState.applyEventUpdates_sameRequests s updates).2.2

theorem registerPendingUserInput_keeps (submissionId : String) (event : RequestUserInputEvent)
    (a : ThreadActor) : KeepsSettings a (a.registerPendingUserInput codex submissionId event) :=
  (agentText_keeps _ a).trans (.of_state rfl rfl)

theorem clearForSubmission_keeps (id : String) (a : ThreadActor) :
    KeepsSettings a { a with state := a.state.clearPendingUserInputForSubmission id } := by
  unfold ActorState.clearPendingUserInputForSubmission
  split
  · exact .of_state rfl rfl
  · exact .refl a

theorem submitOk_keeps {op : Op} (hop : op.overrides = none) (a : ThreadActor) :
    KeepsSettings a (ThreadActor.submitOk codex op a).2 :=
  .of_world (worldKeeps_submit hop a.world)

/-- **Events** leave the settings alone, except that the start of a turn writes
the collaboration mode. -/
theorem handleEvent_settings (codex : Codex) (event : Event) (a : ThreadActor) :
    KeepsButMode a (a.handleEvent codex event) ∧
      (startsTurn event.msg = false → KeepsSettings a (a.handleEvent codex event)) := by
  unfold handleEvent
  dsimp only
  split
  · exact ⟨(KeepsSettings.refl a).toKeepsButMode, fun _ => .refl a⟩
  · have hplanned := keepsPromptFrame.plannedEvent_frame (fun _ _ => .of_state rfl rfl)
      (fun a => onSubmission_keeps fun p => submission_handleEvent_keeps codex event.msg ⟨p, a.world⟩)
      (planActorEvent event.msg).action
      { a with state := a.state.applyEventUpdates (planActorEvent event.msg).stateUpdates }
    -- The updates come first and may write the mode; what the plan then does writes no setting.
    have hsent := applyEventUpdates_lastSent a.state (planActorEvent event.msg).stateUpdates
    have hupdated : KeepsButMode a
        { a with state := a.state.applyEventUpdates (planActorEvent event.msg).stateUpdates } :=
      ⟨rfl, hsent, .refl _⟩
    refine ⟨hupdated.trans hplanned.toKeepsButMode, fun h => ?_⟩
    exact KeepsSettings.trans ⟨hupdated, applyEventUpdates_modeKind h a.state⟩ hplanned

/-- The recorded items that tell the actor a collaboration mode. -/
def startsTurnItem : RolloutItem → Bool
  | .eventMsg msg => startsTurn msg
  | _ => false

theorem replayResponseItem_keeps (codex : Codex) (route : ReplayResponseItemRoute)
    (a : ThreadActor) : KeepsSettings a (a.replayResponseItem codex route) := by
  rw [replayResponseItem_eq]
  refine .of_world ⟨rfl, ?_, .refl _⟩
  show configUpdates (a.world.sent ++ _) = configUpdates a.world.sent
  unfold configUpdates
  rw [List.filterMap_append, List.append_right_eq_self, List.filterMap_eq_nil_iff]
  intro update hupdate
  rcases toolCall_or_update hupdate with ⟨_, rfl⟩ | ⟨_, rfl⟩ <;> rfl

theorem replayItem_settings (codex : Codex) (item : RolloutItem) (a : ThreadActor) :
    KeepsButMode a (a.replayItem codex item) ∧
      (startsTurnItem item = false → KeepsSettings a (a.replayItem codex item)) := by
  cases item with
  | responseItem item =>
    have hkeeps := replayResponseItem_keeps codex (routeReplayResponseItem item) a
    exact ⟨hkeeps.toKeepsButMode, fun _ => hkeeps⟩
  | stateOnly => exact ⟨(KeepsSettings.refl a).toKeepsButMode, fun _ => .refl a⟩
  | eventMsg msg =>
    have hsent := applyEventUpdates_lastSent a.state (actorStateUpdates msg)
    have hplanned : KeepsSettings
        { a with state := a.state.applyEventUpdates (actorStateUpdates msg) }
        (a.replayEventPlan codex (routeReplayEventMsg msg)) := by
      unfold replayEventPlan
      dsimp only
      cases haction : (routeReplayEventMsg msg).action with
      | effect effect => exact .of_world (replayEffect_keeps haction _)
      | ignore => exact .refl _
      | registerPendingUserInput turnId event => exact registerPendingUserInput_keeps _ _ _
      | clearPendingUserInputForSubmission turnId => exact clearForSubmission_keeps _ _
      | clearPendingUserInput => exact .of_state rfl rfl
    have hupdated : KeepsButMode a
        { a with state := a.state.applyEventUpdates (actorStateUpdates msg) } :=
      ⟨rfl, hsent, .refl _⟩
    refine ⟨hupdated.trans hplanned.toKeepsButMode, fun h => ?_⟩
    exact KeepsSettings.trans ⟨hupdated, applyEventUpdates_modeKind h a.state⟩ hplanned

/-- **Histories** leave the settings alone, up to the turns they start. -/
theorem handleReplayHistory_settings (codex : Codex) (history : List RolloutItem)
    (a : ThreadActor) :
    KeepsButMode a (a.handleReplayHistory codex history) ∧
      (history.any startsTurnItem = false →
        KeepsSettings a (a.handleReplayHistory codex history)) := by
  unfold handleReplayHistory
  induction history generalizing a with
  | nil => exact ⟨(KeepsSettings.refl a).toKeepsButMode, fun _ => .refl a⟩
  | cons item history ih =>
    obtain ⟨hitem, hkeeps⟩ := replayItem_settings codex item a
    obtain ⟨hrest, hrestKeeps⟩ := ih (a.replayItem codex item)
    refine ⟨hitem.trans hrest, fun h => ?_⟩
    rw [List.any_cons, Bool.or_eq_false_iff] at h
    exact (hkeeps h.1).trans (hrestKeeps h.2)

end Events

/-! ## Prompts -/

section Prompts

open ThreadActor

variable {codex : Codex}

theorem handlePendingUserInputPrompt_keeps (request : PromptRequest) :
    Handler.Frame KeepsSettings (handlePendingUserInputPrompt codex request) :=
  keepsPromptFrame.handlePendingUserInputPrompt_frame (fun _ => .of_state rfl rfl) request

theorem freshPrompt_keeps {request : PromptRequest} {a b : ThreadActor} {items : List UserInput}
    (h : freshPrompt codex request a = some (items, b)) : KeepsSettings a b := by
  unfold freshPrompt at h
  split at h
  · cases h
  · cases h
    exact withWaiter_keeps a

/-- **Prompts.** The slash command of a prompt is all that touches the settings. -/
theorem handlePrompt_settings (codex : Codex) (request : PromptRequest) (a : ThreadActor) :
    match freshPrompt codex request a with
    | none => KeepsSettings a (handlePrompt codex request a).2
    | some (items, b) =>
      KeepsSettings (promptSubmissionForItems codex items b).2 (handlePrompt codex request a).2 := by
  have hprompt := keepsPromptFrame.handlePrompt_frame codex request a
  cases hfresh : freshPrompt codex request a with
  | none =>
    rw [hfresh] at hprompt
    dsimp only at hprompt ⊢
    rw [hprompt]
    exact handlePendingUserInputPrompt_keeps request a
  | some start => rw [hfresh] at hprompt; exact hprompt

theorem handleSteer_settings (codex : Codex) (request : PromptRequest) (a : ThreadActor) :
    match messagePrompt codex a (.steer request) with
    | none => KeepsSettings a (handleSteer codex request a).2
    | some (items, b) =>
      KeepsSettings (promptSubmissionForItems codex items b).2 (handleSteer codex request a).2 := by
  have hsteer := handleSteer_prompt codex request a
  rw [messagePrompt_eq]
  cases hhandled : handledPrompt codex a (.steer request) with
  | none =>
    rw [hhandled] at hsteer
    rcases hsteer with h | h
    · dsimp only [Option.bind]; rw [h]; exact .refl a
    · dsimp only [Option.bind]; rw [h]; exact called_keeps a
  | some handled =>
    obtain ⟨prompt, b⟩ := handled
    rw [hhandled] at hsteer
    obtain ⟨rfl, h⟩ := hsteer
    have hprompt := handlePrompt_settings codex prompt a.called
    rw [← h] at hprompt
    dsimp only [Option.bind]
    cases hfresh : freshPrompt codex prompt a.called with
    | none => rw [hfresh] at hprompt; exact (called_keeps a).trans hprompt
    | some start => rw [hfresh] at hprompt; exact hprompt

theorem messagePrompt_keeps {a b : ThreadActor} {m : ThreadMessage} {items : List UserInput}
    (h : messagePrompt codex a m = some (items, b)) : KeepsSettings a b := by
  unfold messagePrompt at h
  split at h
  · exact freshPrompt_keeps h
  · dsimp only at h
    split at h
    · cases h
    split at h
    · exact (called_keeps a).trans (freshPrompt_keeps h)
    · cases h
  · cases h

end Prompts

/-! ## Steps -/

open ThreadActor

/-- What a step labelled so may do to the settings. -/
inductive SettingsEffect (codex : Codex) (a a' : ThreadActor) : Label → Prop where
  | kept {l : Label} (h : KeepsSettings a a') : SettingsEffect codex a a' l
  /-- A turn started, now or in a replayed history. -/
  | turnStarted {l : Label}
      (hl : (∃ event, l = .event event ∧ startsTurn event.msg = true) ∨
        ∃ history, l = .message (.replayHistory history) ∧ history.any startsTurnItem = true)
      (h : KeepsButMode a a') : SettingsEffect codex a a' l
  | modelsChanged (models : ModelsManager)
      (h : a' = { a with world := { a.world with models := models } }) :
      SettingsEffect codex a a' (.modelsChanged models)
  | load (h : a' = a.answer .load (handleLoad codex)) : SettingsEffect codex a a' (.message .load)
  | setMode (mode : SessionModeId)
      (h : a' = (a.answer .done (handleSetMode codex mode)).maybeEmitConfigOptionsUpdate codex) :
      SettingsEffect codex a a' (.message (.setMode mode))
  | setConfigOption (configId : SessionConfigId) (value : SessionConfigOptionValue)
      (h : a' = a.answer .done (handleSetConfigOption codex configId value)) :
      SettingsEffect codex a a' (.message (.setConfigOption configId value))
  /-- A prompt: its slash command ran, and then it was submitted or answered. -/
  | prompt {m : ThreadMessage} {items : List UserInput} {b : ThreadActor}
      (hitems : messagePrompt codex a m = some (items, b)) (hb : KeepsSettings a b)
      (h : KeepsSettings (promptSubmissionForItems codex items b).2 a') :
      SettingsEffect codex a a' (.message m)

theorem answer_keeps {α : Type} (toReply : Except Error α → Reply)
    (x : Handler ThreadActor Error α) (a : ThreadActor) :
    KeepsSettings (x a).2 (a.answer toReply x) :=
  .of_world ⟨rfl, rfl, .refl _⟩

/-- Cancelling a turn and shutting down leave the settings alone. -/
theorem cancel_keeps {codex : Codex} {op : Op} (hop : op.overrides = none) (a : ThreadActor) :
    KeepsSettings a (submitOk codex op a.abortPendingInteractions).2 := by
  refine KeepsSettings.trans (b := a.abortPendingInteractions) ?_ (submitOk_keeps hop _)
  exact ⟨⟨rfl, rfl, rfl, rfl, .refl _⟩, rfl⟩

theorem handleMessage_settings (codex : Codex) (a : ThreadActor) (message : ThreadMessage) :
    SettingsEffect codex a (a.handleMessage codex message) (.message message) := by
  cases message with
  | load => exact .load rfl
  | getConfigOptions => exact .kept (answer_keeps .configOptions (Handler.reads _) a)
  | prompt request =>
    have h := handlePrompt_settings codex request a
    cases hstart : freshPrompt codex request a with
    | none => rw [hstart] at h; exact .kept (h.trans (answer_keeps ..))
    | some start =>
      rw [hstart] at h
      exact .prompt hstart (freshPrompt_keeps hstart) (h.trans (answer_keeps ..))
  | steer request =>
    have h := handleSteer_settings codex request a
    cases hstart : messagePrompt codex a (.steer request) with
    | none => rw [hstart] at h; exact .kept (h.trans (answer_keeps ..))
    | some start =>
      rw [hstart] at h
      exact .prompt hstart (messagePrompt_keeps hstart) (h.trans (answer_keeps ..))
  | controlGoal action =>
    exact .kept ((keepsFrame.handleGoalControl_frame action a).trans (answer_keeps ..))
  | setMode mode => exact .setMode mode rfl
  | setConfigOption configId value => exact .setConfigOption configId value rfl
  | cancel => exact .kept ((cancel_keeps rfl a).trans (answer_keeps .done (handleCancel codex) a))
  | shutdown =>
    exact .kept ((cancel_keeps rfl a).trans (answer_keeps .done (handleShutdown codex) a))
  | replaceClient => exact .kept (answer_keeps .done (pure ()) a)
  | replayHistory history =>
    obtain ⟨hbut, hkeeps⟩ := handleReplayHistory_settings codex history a
    have hanswer := answer_keeps .done (Handler.update (handleReplayHistory codex history)) a
    cases hstarts : history.any startsTurnItem with
    | false => exact .kept ((hkeeps hstarts).trans hanswer)
    | true =>
      exact .turnStarted (.inr ⟨history, rfl, hstarts⟩) (hbut.trans hanswer.toKeepsButMode)

/-- **Every step of the loop does one of these to the settings.** -/
theorem settings_effect {codex : Codex} {r r' : Running} {l : Label}
    (h : r.step codex l = some r') : SettingsEffect codex r.actor r'.actor l := by
  cases l with
  | message message =>
    simp only [Running.step, Option.ite_none_right_eq_some, Option.some.injEq] at h
    obtain ⟨_, rfl⟩ := h
    exact handleMessage_settings codex r.actor message
  | event event =>
    simp only [Running.step, Option.ite_none_right_eq_some, Option.some.injEq] at h
    obtain ⟨_, rfl⟩ := h
    obtain ⟨hbut, hkeeps⟩ := handleEvent_settings codex event r.actor
    cases hstarts : startsTurn event.msg with
    | false => exact .kept (hkeeps hstarts)
    | true => exact .turnStarted (.inl ⟨event, rfl, hstarts⟩) hbut
  | modelsChanged models =>
    cases h
    exact .modelsChanged models rfl
  | resolution =>
    simp only [Running.step] at h
    split at h
    next n message rest _ hqueue =>
      cases h
      refine .kept ((KeepsSettings.of_world ?_).trans (resolved_keeps codex message _))
      exact ⟨rfl, rfl, .refl _⟩
    next => cases h
  | noResolution =>
    simp only [Running.step] at h
    split at h
    · cases h
      exact .kept (.refl _)
    · cases h
  | wake =>
    simp only [Running.step, Option.ite_none_right_eq_some, Option.some.injEq] at h
    obtain ⟨_, rfl⟩ := h
    exact .kept (.refl _)
  | collect =>
    simp only [Running.step, Option.ite_none_right_eq_some, Option.some.injEq] at h
    obtain ⟨_, rfl⟩ := h
    exact .kept (.of_submissions _)
  | respond n response =>
    simp only [Running.step, Option.map_eq_some_iff] at h
    obtain ⟨w, hw, rfl⟩ := h
    refine .kept (.of_world ?_)
    unfold World.respond at hw
    split at hw
    · cases hw
      exact ⟨rfl, rfl, .refl _⟩
    · cases hw
  | send n =>
    simp only [Running.step, Option.map_eq_some_iff] at h
    obtain ⟨w, hw, rfl⟩ := h
    refine .kept (.of_world ?_)
    unfold World.sendResolved at hw
    split at hw
    · cases hw
      exact ⟨rfl, rfl, .refl _⟩
    · cases hw
  | closeReceiver waiter =>
    simp only [Running.step, Option.ite_none_right_eq_some, Option.some.injEq] at h
    obtain ⟨_, rfl⟩ := h
    exact .kept (.of_world ⟨rfl, rfl, .refl _⟩)

end CodexAcp.Thread
