import CodexAcp.Thread.SlashCommands

/-!
# What the settings handlers do, once

Loading a session, setting a mode or an option, and every slash command end in
the same few moves: a call that may be refused, an override that Codex accepted
with the local write that follows it (`Setting`), a constrained write of the
preset, a goal or a review target remembered, the options sent to the editor.

`SettingsFrame` asks a relation between the actor before and the actor after to
be kept by each of these moves. Then it is kept by every settings handler,
failed or not, whatever calls and submits were refused. The other frames are the
parts of it that a handler needs: calls (`QueryFrame`), goal requests
(`CallFrame`), setters (`SetterFrame`), and setters and commands that leave the
collaboration mode alone (`PlainSetterFrame`, `PlainSettingsFrame`):

> `handleSetMode_frame`, `handleSetConfigOption_frame`, `handleLoad_frame`,
> `promptSubmissionForItems_frame`, `handleGoalControl_frame`.

The handlers are walked here and nowhere else; a fact about all of them is a
proof of the moves.
-/

namespace CodexAcp.Thread

open CodexAcp.Lib CodexAcp.Protocol CodexAcp.Boundary

/-! ## Moves -/

namespace ThreadActor

/-- A call was made, and nothing else happened. -/
def called (a : ThreadActor) : ThreadActor :=
  { a with world := { a.world with calls := a.world.calls + 1 } }

/-- Codex accepted an op under an id. -/
def accept (op : Op) (id : String) (a : ThreadActor) : ThreadActor :=
  { a with world :=
    { a.world with calls := a.world.calls + 1, accepted := a.world.accepted ++ [(op, id)] } }

/-- A service tier was written to the configuration file. -/
def saved (value : Option String) (a : ThreadActor) : ThreadActor :=
  { a with world :=
    { a.world with calls := a.world.calls + 1, savedTiers := a.world.savedTiers ++ [value] } }

end ThreadActor

/-- What an accepted submit leaves, and a refused one. -/
theorem World.submitOk_run (codex : Codex) (op : Op) (w : World) :
    World.submitOk codex op w =
      match codex.submit w.calls op with
      | .ok id => (.ok (), { w with calls := w.calls + 1, accepted := w.accepted ++ [(op, id)] })
      | .error e => (.error (Error.fromAnyhow e), { w with calls := w.calls + 1 }) := by
  unfold World.submitOk
  rw [Handler.bind_run]
  unfold Handler.mapError World.submit
  cases codex.submit w.calls op <;> rfl

theorem submitOk_run (codex : Codex) (op : Op) (a : ThreadActor) :
    ThreadActor.submitOk codex op a =
      match codex.submit a.world.calls op with
      | .ok id => (.ok (), a.accept op id)
      | .error e => (.error (Error.fromAnyhow e), a.called) := by
  unfold ThreadActor.submitOk ThreadActor.onWorld
  rw [Handler.zoom_run, World.submitOk_run]
  cases codex.submit a.world.calls op <;> rfl

theorem call_run {α : Type} (f : Nat → Except Error α) (a : ThreadActor) :
    ThreadActor.call f a = (f a.world.calls, a.called) := rfl

theorem editServiceTier_run (codex : Codex) (value : Option String) (a : ThreadActor) :
    ThreadActor.editServiceTier codex value a =
      match codex.editServiceTier a.world.calls value with
      | .ok () => (.ok (), a.saved value)
      | .error e => (.error (Error.fromAnyhow e), a.called) := by
  unfold ThreadActor.editServiceTier ThreadActor.onWorld
  rw [Handler.zoom_run]
  unfold World.editServiceTier
  cases codex.editServiceTier a.world.calls value <;> rfl

/-- An override of a setter, and the actor with the local settings it writes once
Codex accepted the override. -/
inductive Setting (codex : Codex) (a : ThreadActor) :
    ThreadSettingsOverrides → ThreadActor → Prop where
  | selection (selection : ModelSelection) :
      Setting codex a
        { model := some selection.model, effort := some selection.reasoningEffort }
        { a with config :=
          { a.config with
            model := some selection.model
            modelReasoningEffort := selection.reasoningEffort } }
  | reasoningEffort (effort : ReasoningEffort) :
      Setting codex a { effort := some (some effort) }
        { a with config := { a.config with modelReasoningEffort := some effort } }
  | serviceTier (value : Option String) :
      Setting codex a { serviceTier := some value }
        { a with config := { a.config with serviceTier := value } }
  | collaborationMode {kind : ModeKind} {mode : CollaborationMode}
      (h : collaborationModeForKind codex kind a.getCurrentModel a.config.modelReasoningEffort
        = some mode) :
      Setting codex a { collaborationMode := some mode }
        { a with state := { a.state with activeCollaborationModeKind := some kind } }
  /-- The local parts of a preset are written afterwards, each behind its constraint. -/
  | approvalPreset {preset : ApprovalPreset} (h : preset ∈ codex.approvalPresets) :
      Setting codex a
        { approvalPolicy := some preset.approval
          permissionProfile := some preset.permissionProfile
          activePermissionProfile := (activeProfileIdForSessionMode preset.id).map (⟨·⟩) } a

/-- A relation kept by calls, whatever they leave outside the actor. -/
structure QueryFrame (R : ThreadActor → ThreadActor → Prop) : Prop where
  refl : ∀ a, R a a
  trans : ∀ {a b c}, R a b → R b c → R a c
  called : ∀ a, R a a.called
  saved : ∀ a value, R a (a.saved value)

/-- A relation kept by calls and by what a goal request writes. -/
structure CallFrame (R : ThreadActor → ThreadActor → Prop) : Prop extends QueryFrame R where
  goal : ∀ goal a, R a (ThreadActor.rememberGoal goal a)

/-- A relation that the setters keep that leave the collaboration mode alone: an
override with the local write after it, the constrained writes of a preset, and
the review target. -/
structure PlainSetterFrame (codex : Codex) (R : ThreadActor → ThreadActor → Prop) : Prop
    extends QueryFrame R where
  plainSetting : ∀ {a overrides b}, Setting codex a overrides b →
    overrides.collaborationMode = none → ∀ id, R a (b.accept (.threadSettings overrides) id)
  permissions : ∀ permissions a, R a (ThreadActor.withPermissions permissions a)
  reviewBranch : ∀ branch a, R a (ThreadActor.setReviewBaseBranch branch a)

/-- A relation that every setter keeps, and goal requests. -/
structure SetterFrame (codex : Codex) (R : ThreadActor → ThreadActor → Prop) : Prop
    extends CallFrame R, PlainSetterFrame codex R where
  setting : ∀ {a overrides b}, Setting codex a overrides b →
    ∀ id, R a (b.accept (.threadSettings overrides) id)

/-- The setters that leave the collaboration mode alone, and telling the editor
about the options. -/
structure PlainSettingsFrame (codex : Codex) (R : ThreadActor → ThreadActor → Prop) : Prop
    extends PlainSetterFrame codex R where
  emit : ∀ a, R a (a.maybeEmitConfigOptionsUpdate codex)

/-- A relation that every move of a settings handler keeps. -/
structure SettingsFrame (codex : Codex) (R : ThreadActor → ThreadActor → Prop) : Prop
    extends SetterFrame codex R, PlainSettingsFrame codex R

/-! ## The handlers keep what the moves keep -/

namespace QueryFrame

open ThreadActor Handler

variable {codex : Codex} {R : ThreadActor → ThreadActor → Prop} {α β : Type}

theorem bind (hR : QueryFrame R) {x : Handler ThreadActor Error α}
    {f : α → Handler ThreadActor Error β} (hx : Frame R x) (hf : ∀ a, Frame R (f a)) :
    Frame R (x >>= f) := by
  refine frame_bind ?_ hx hf
  exact fun h h' => hR.trans h h'

theorem map (hR : QueryFrame R) {f : α → β} {x : Handler ThreadActor Error α}
    (hx : Frame R x) : Frame R (f <$> x) :=
  hR.bind hx fun a => frame_pure hR.refl (f a)

/-- Go on from what the state is now. -/
theorem readThen (hR : QueryFrame R) {f : ThreadActor → Handler ThreadActor Error α}
    (hf : ∀ a, Frame R (f a)) : Frame R (reads id >>= f) :=
  hR.bind (frame_reads hR.refl _) hf

theorem pure (hR : QueryFrame R) (a : α) :
    Frame R (Pure.pure a : Handler ThreadActor Error α) :=
  frame_pure hR.refl a

theorem fail (hR : QueryFrame R) (e : Error) :
    Frame R (Handler.fail e : Handler ThreadActor Error α) :=
  frame_fail hR.refl e

theorem call (hR : QueryFrame R) (f : Nat → Except Error α) : Frame R (ThreadActor.call f) :=
  hR.called

theorem editServiceTier (hR : QueryFrame R) (value : Option String) :
    Frame R (ThreadActor.editServiceTier codex value) := by
  intro a
  rw [editServiceTier_run]
  split
  · exact hR.saved a value
  · exact hR.called a

theorem setThreadGoalStatus_frame (hR : QueryFrame R) (status : ThreadGoalStatus)
    (action : String) : Frame R (setThreadGoalStatus codex status action) := by
  refine hR.bind (frame_attempt (hR.call _)) fun result => ?_
  split <;> exact hR.pure _

theorem handleGoalCommand_frame (hR : QueryFrame R) (args : String) :
    Frame R (handleGoalCommand codex args) := by
  refine hR.readThen fun a => frame_ite (hR.pure _) (frame_ite ?_ ?_)
  · refine hR.bind (hR.call _) fun goal => ?_
    split <;> exact hR.pure _
  refine frame_ite (hR.bind (hR.call _) fun cleared => frame_ite (hR.pure _) (hR.pure _)) ?_
  refine frame_ite (hR.setThreadGoalStatus_frame _ _)
    (frame_ite (hR.setThreadGoalStatus_frame _ _) ?_)
  unfold setThreadGoalObjective
  split
  · exact hR.pure _
  · exact hR.bind (hR.call _) fun _ => hR.pure _

/-- An override, and the local write after it: refused, nothing is written. -/
theorem submitThen (hR : QueryFrame R) {a b : ThreadActor} {overrides : ThreadSettingsOverrides}
    {f : ThreadActor → ThreadActor}
    (hset : ∀ id, R a (b.accept (.threadSettings overrides) id))
    (hf : ∀ id, f (a.accept (.threadSettings overrides) id)
      = b.accept (.threadSettings overrides) id) :
    R a ((do submitOk codex (.threadSettings overrides); update f : Handler _ Error Unit) a).2 := by
  rw [bind_run, submitOk_run]
  cases codex.submit a.world.calls (.threadSettings overrides) with
  | ok id =>
    show R a (f (a.accept (.threadSettings overrides) id))
    rw [hf]
    exact hset id
  | error e => exact hR.called a

end QueryFrame

namespace CallFrame

open ThreadActor Handler

variable {codex : Codex} {R : ThreadActor → ThreadActor → Prop} {α β : Type}

theorem handleGoalControl_frame (hR : CallFrame R) (action : GoalControlAction) :
    Frame R (handleGoalControl codex action) := by
  refine hR.readThen fun a => frame_ite (hR.fail _) ?_
  refine hR.bind ?_ fun goal => frame_update (hR.goal goal)
  cases action <;> exact hR.map (hR.call _)

/-! ## Setters that fail wrote nothing -/

/-- An override and its local write: refused, it was a call and nothing else. -/
theorem set_fails (hR : CallFrame R) (op : Op) (f : ThreadActor → ThreadActor) :
    FailFrame R (do submitOk codex op; update f) := by
  intro a err b hrun
  rw [bind_run, submitOk_run] at hrun
  cases hsubmit : codex.submit a.world.calls op with
  | ok id => rw [hsubmit] at hrun; cases hrun
  | error e => rw [hsubmit] at hrun; cases hrun; exact hR.called a

theorem readThen_fails (hR : CallFrame R) {f : ThreadActor → Handler ThreadActor Error α}
    (hf : ∀ a, FailFrame R (f a)) : FailFrame R (reads id >>= f) := by
  refine failFrame_bind ?_ (frame_reads hR.refl _) hf
  exact fun h h' => hR.trans h h'

theorem fail_fails (hR : CallFrame R) (e : Error) :
    FailFrame R (Handler.fail e : Handler ThreadActor Error α) :=
  failFrame_of_frame (hR.fail e)

theorem handleSetConfigModel_fails (hR : CallFrame R) (value : String) :
    FailFrame R (handleSetConfigModel codex value) := by
  refine hR.readThen_fails fun _ => failFrame_bind ?_ (frame_lift hR.refl _) fun _ => hR.set_fails _ _
  exact fun h h' => hR.trans h h'

theorem handleSetConfigReasoningEffort_fails (hR : CallFrame R) (value : String) :
    FailFrame R (handleSetConfigReasoningEffort codex value) := by
  unfold handleSetConfigReasoningEffort
  split
  · exact hR.fail_fails _
  refine hR.readThen_fails fun a => ?_
  split
  · exact hR.fail_fails _
  · exact failFrame_ite (hR.fail_fails _) (hR.set_fails _ _)

theorem handleLoad_fails (hR : CallFrame R) : FailFrame R (handleLoad codex) := by
  refine failFrame_then (hR.readThen_fails fun a => ?_) fun _ a => ⟨_, rfl⟩
  split
  · exact failFrame_of_ok fun _ => ⟨(), rfl⟩
  · exact hR.set_fails _ _

theorem applyCollaborationModeKind_fails (hR : CallFrame R) (kind : ModeKind) :
    FailFrame R (applyCollaborationModeKind codex kind) := by
  refine hR.readThen_fails fun a => ?_
  split
  · exact hR.fail_fails _
  · exact hR.set_fails _ _

theorem setServiceTier_fails (hR : CallFrame R) (serviceTier : Option ServiceTier) :
    FailFrame R (setServiceTier codex serviceTier) := by
  refine failFrame_bind ?_ (hR.editServiceTier _) fun _ => hR.set_fails _ _
  exact fun h h' => hR.trans h h'

theorem handleSetServiceTier_fails (hR : CallFrame R) (value : String) :
    FailFrame R (handleSetServiceTier codex value) :=
  hR.readThen_fails fun _ => failFrame_ite (hR.fail_fails _) <|
    failFrame_ite (hR.setServiceTier_fails _) <| failFrame_ite (hR.setServiceTier_fails _) <|
      failFrame_ite (hR.setServiceTier_fails _) (hR.fail_fails _)

end CallFrame

namespace PlainSetterFrame

open ThreadActor Handler

variable {codex : Codex} {R : ThreadActor → ThreadActor → Prop}

theorem applySelectedModel_frame (hR : PlainSetterFrame codex R) (selection : ModelSelection) :
    Frame R (applySelectedModel codex selection) := by
  intro a
  -- The override of a selection is one of the settings, with or without an effort.
  have hoverride : overrideModel (some selection.model)
      (.fromSelectedEffort selection.reasoningEffort) =
      .threadSettings
        { model := some selection.model, effort := some selection.reasoningEffort } := by
    unfold overrideModel
    cases selection.reasoningEffort <;> rfl
  unfold applySelectedModel submitModelOverride
  rw [hoverride]
  exact hR.submitThen (hR.plainSetting (.selection selection) rfl) fun _ => rfl

theorem handleSetConfigModel_frame (hR : PlainSetterFrame codex R) (value : String) :
    Frame R (handleSetConfigModel codex value) :=
  hR.readThen fun _ =>
    hR.bind (frame_lift hR.refl _) fun selection => hR.applySelectedModel_frame selection

theorem handleSetConfigReasoningEffort_frame (hR : PlainSetterFrame codex R) (value : String) :
    Frame R (handleSetConfigReasoningEffort codex value) := by
  unfold handleSetConfigReasoningEffort
  split
  · exact hR.fail _
  refine hR.readThen fun a => ?_
  split
  · exact hR.fail _
  split
  · exact hR.fail _
  · exact fun b => hR.submitThen (hR.plainSetting (.reasoningEffort _) rfl) fun _ => rfl

theorem ensureCurrentModelSelection_frame (hR : PlainSetterFrame codex R) :
    Frame R (ensureCurrentModelSelection codex) := by
  refine hR.readThen fun a => ?_
  split
  · exact hR.pure _
  · exact hR.applySelectedModel_frame _

theorem setApprovalPolicy_frame (hR : PlainSetterFrame codex R) (approval : AskForApproval) :
    Frame R (setApprovalPolicy approval) :=
  hR.readThen fun _ =>
    hR.bind (frame_update (hR.permissions _)) fun _ => frame_lift hR.refl _

theorem setPermissionProfile_frame (hR : PlainSetterFrame codex R)
    (snapshot : PermissionProfileSnapshot) : Frame R (setPermissionProfile snapshot) :=
  hR.readThen fun _ =>
    hR.bind (frame_update (hR.permissions _)) fun _ => frame_lift hR.refl _

theorem handleSetApprovalPreset_frame (hR : PlainSetterFrame codex R) (mode : SessionModeId) :
    Frame R (handleSetApprovalPreset codex mode) := by
  unfold handleSetApprovalPreset
  split
  · exact hR.fail _
  next preset hfind =>
    refine hR.bind ?_ fun _ => hR.bind (hR.setApprovalPolicy_frame _) fun _ =>
      hR.bind (hR.setPermissionProfile_frame _) fun _ => frame_ite (hR.call _) (hR.pure _)
    intro a
    rw [submitOk_run]
    split
    · exact hR.plainSetting (.approvalPreset (List.mem_of_find?_eq_some hfind)) rfl _
    · exact hR.called a

theorem setServiceTier_frame (hR : PlainSetterFrame codex R) (serviceTier : Option ServiceTier) :
    Frame R (setServiceTier codex serviceTier) :=
  hR.bind (hR.editServiceTier _) fun _ _ =>
    hR.submitThen (hR.plainSetting (.serviceTier _) rfl) fun _ => rfl

theorem handleSetServiceTier_frame (hR : PlainSetterFrame codex R) (value : String) :
    Frame R (handleSetServiceTier codex value) :=
  hR.readThen fun _ =>
    frame_ite (hR.fail _) <| frame_ite (hR.setServiceTier_frame _) <|
      frame_ite (hR.setServiceTier_frame _) <| frame_ite (hR.setServiceTier_frame _) (hR.fail _)

theorem handleSetReviewTarget_frame (hR : PlainSetterFrame codex R) (value : String) :
    Frame R (handleSetReviewTarget value) := by
  unfold handleSetReviewTarget
  split
  · exact frame_update (hR.reviewBranch _)
  split
  · exact hR.fail _
  · exact frame_ite (hR.fail _) (frame_update (hR.reviewBranch _))

/-- Every option but the mode leaves the collaboration mode alone. -/
theorem handleSetConfigOption_plain (hR : PlainSetterFrame codex R) {configId : SessionConfigId}
    (hid : configId ≠ "mode") (value : SessionConfigOptionValue) :
    Frame R (handleSetConfigOption codex configId value) := by
  unfold handleSetConfigOption
  split
  · exact hR.fail _
  rw [if_neg hid]
  -- The options in the order the source tries them; the mode is not among them.
  refine frame_ite (hR.handleSetApprovalPreset_frame _) ?_
  refine frame_ite (hR.handleSetReviewTarget_frame _) ?_
  refine frame_ite (hR.handleSetConfigModel_frame _) ?_
  refine frame_ite (hR.handleSetConfigReasoningEffort_frame _) ?_
  exact frame_ite (hR.handleSetServiceTier_frame _) (hR.fail _)

theorem handleLoad_frame (hR : PlainSetterFrame codex R) : Frame R (handleLoad codex) :=
  hR.bind hR.ensureCurrentModelSelection_frame fun _ => frame_reads hR.refl _

end PlainSetterFrame

namespace SetterFrame

open ThreadActor Handler

variable {codex : Codex} {R : ThreadActor → ThreadActor → Prop}

theorem applyCollaborationModeKind_frame (hR : SetterFrame codex R) (kind : ModeKind) :
    Frame R (applyCollaborationModeKind codex kind) := by
  intro a
  unfold applyCollaborationModeKind
  rw [bind_run, reads_run]
  dsimp only [id]
  cases hmode : collaborationModeForKind codex kind a.getCurrentModel
      a.config.modelReasoningEffort with
  | none => exact hR.refl a
  | some mode => exact hR.submitThen (hR.setting (.collaborationMode hmode)) fun _ => rfl

theorem handleSetMode_frame (hR : SetterFrame codex R) (mode : SessionModeId) :
    Frame R (handleSetMode codex mode) := by
  unfold handleSetMode
  split
  · exact hR.handleSetApprovalPreset_frame _
  split
  · exact hR.fail _
  · exact hR.applyCollaborationModeKind_frame _

theorem handleSetConfigOption_frame (hR : SetterFrame codex R) (configId : SessionConfigId)
    (value : SessionConfigOptionValue) : Frame R (handleSetConfigOption codex configId value) := by
  by_cases hid : configId = "mode"
  · unfold handleSetConfigOption
    split
    · exact hR.fail _
    · rw [if_pos hid]
      exact hR.handleSetMode_frame _
  · exact hR.handleSetConfigOption_plain hid value

end SetterFrame

/-! ## Slash commands -/

namespace PlainSettingsFrame

open ThreadActor Handler

variable {codex : Codex} {R : ThreadActor → ThreadActor → Prop}

theorem setServiceTierAndEmit_frame (hR : PlainSettingsFrame codex R)
    (serviceTier : Option ServiceTier) : Frame R (setServiceTierAndEmit codex serviceTier) :=
  hR.bind (hR.setServiceTier_frame serviceTier) fun _ =>
    hR.bind (frame_update hR.emit) fun _ => frame_reads hR.refl _

theorem handleFastCommand_frame (hR : PlainSettingsFrame codex R) (args : String) :
    Frame R (handleFastCommand codex args) :=
  hR.readThen fun _ =>
    frame_ite (hR.pure _) <| frame_ite (hR.setServiceTierAndEmit_frame _) <|
      frame_ite (hR.setServiceTierAndEmit_frame _) <| frame_ite (hR.setServiceTierAndEmit_frame _) <|
        frame_ite (hR.pure _) (hR.pure _)

theorem handlePermissionsCommand_frame (hR : PlainSettingsFrame codex R) (rest : String) :
    Frame R (handlePermissionsCommand codex rest) := by
  unfold handlePermissionsCommand
  split
  · exact hR.bind (hR.handleSetApprovalPreset_frame _) fun _ =>
      hR.bind (frame_update hR.emit) fun _ => hR.pure _
  · exact frame_reads hR.refl _

/-- Every command but `/plan` leaves the collaboration mode alone. -/
theorem handleSlashCommand_plain (hR : PlainSettingsFrame codex R) {name : String}
    (hname : name ≠ "plan") (rest : String) (items : List UserInput) :
    Frame R (handleSlashCommand codex name rest items) := by
  unfold handleSlashCommand
  refine frame_ite (hR.pure _) (frame_ite (hR.pure _) (frame_ite (hR.pure _) ?_))
  refine frame_ite (frame_reads hR.refl _) (frame_ite (hR.pure _) (frame_ite (hR.pure _) ?_))
  refine frame_ite (hR.pure _) (frame_ite (hR.pure _) ?_)
  refine frame_ite (hR.map (hR.handleGoalCommand_frame _)) ?_
  refine frame_ite (hR.map (hR.handleFastCommand_frame _)) ?_
  refine frame_ite (hR.pure _) (frame_ite (hR.pure _) (frame_ite (hR.pure _) ?_))
  refine frame_ite (hR.pure _) ?_
  refine frame_ite (hR.map (hR.handlePermissionsCommand_frame _)) ?_
  rw [if_neg hname]
  exact frame_ite (hR.bind (hR.call _) fun _ => hR.fail _) (hR.pure _)

end PlainSettingsFrame

namespace SettingsFrame

open ThreadActor Handler

variable {codex : Codex} {R : ThreadActor → ThreadActor → Prop}

theorem switchCollaborationModeAndEmit_frame (hR : SettingsFrame codex R) (kind : ModeKind) :
    Frame R (switchCollaborationModeAndEmit codex kind) :=
  hR.bind (hR.applyCollaborationModeKind_frame kind) fun _ => frame_update hR.emit

theorem handlePlanCommand_frame (hR : SettingsFrame codex R) (rest : String)
    (items : List UserInput) : Frame R (handlePlanCommand codex rest items) := by
  have hswitch : ∀ kind submission,
      Frame R (do switchCollaborationModeAndEmit codex kind
                  Pure.pure submission : Handler ThreadActor Error PromptSubmission) :=
    fun kind _ => hR.bind (hR.switchCollaborationModeAndEmit_frame kind) fun _ => hR.pure _
  exact frame_ite (hswitch _ _) (frame_ite (hswitch _ _) (hswitch _ _))

theorem handleSlashCommand_plan (codex : Codex) (rest : String) (items : List UserInput) :
    handleSlashCommand codex "plan" rest items = handlePlanCommand codex rest items := by
  unfold handleSlashCommand
  simp

theorem handleSlashCommand_frame (hR : SettingsFrame codex R) (name rest : String)
    (items : List UserInput) : Frame R (handleSlashCommand codex name rest items) := by
  by_cases hname : name = "plan"
  · subst hname
    rw [handleSlashCommand_plan]
    exact hR.handlePlanCommand_frame rest items
  · exact hR.handleSlashCommand_plain hname rest items

/-- The settings a prompt changes before it is submitted. -/
theorem promptSubmissionForItems_frame (hR : SettingsFrame codex R) (items : List UserInput) :
    Frame R (promptSubmissionForItems codex items) := by
  unfold promptSubmissionForItems
  split
  · exact hR.pure _
  · exact hR.handleSlashCommand_frame _ _ _

end SettingsFrame

end CodexAcp.Thread
