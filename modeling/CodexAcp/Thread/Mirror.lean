import CodexAcp.Thread.Preset
import CodexAcp.Thread.SettingsEffect

/-!
# The local settings mirror the runtime

A setter submits its override first and writes the local configuration once
Codex accepted it, so the local settings follow the overrides: along every move
of a handler, what the actor holds is what it held before with the overrides
accepted since on top (`Follows`). Turns that Codex starts on its own tell the
actor a collaboration mode; without them, the local settings are the fold of the
accepted overrides over the initial ones.

> `turnSettings_mirror`: on every run without such a turn, whatever submits were
> refused, and a failed request leaves the settings as they were.

The mode a collaboration preset is applied with is computed by Codex; what is
used of it is that the result has the kind of the preset (`AppliesKind`).
-/

namespace CodexAcp.Thread

open CodexAcp.Lib CodexAcp.Protocol CodexAcp.Boundary ThreadActor

/-! ## Following the overrides -/

/-- The local turn settings moved by exactly the overrides that were accepted. -/
def Follows (a b : ThreadActor) : Prop :=
  ∃ ops, b.world.accepted = a.world.accepted ++ ops ∧
    b.turnSettings = a.turnSettings.after ops

theorem Follows.refl (a : ThreadActor) : Follows a a := ⟨[], by simp, rfl⟩

theorem Follows.trans {a b c : ThreadActor} (h : Follows a b) (h' : Follows b c) :
    Follows a c := by
  obtain ⟨ops, haccepted, hsettings⟩ := h
  obtain ⟨ops', haccepted', hsettings'⟩ := h'
  refine ⟨ops ++ ops', ?_, ?_⟩
  · rw [haccepted', haccepted, List.append_assoc]
  · rw [hsettings', hsettings, TurnSettings.after_append]

/-- Settings and accepted ops that stayed. -/
theorem Follows.of_eq {a b : ThreadActor} (haccepted : b.world.accepted = a.world.accepted)
    (hsettings : b.turnSettings = a.turnSettings) : Follows a b :=
  ⟨[], by rw [haccepted, List.append_nil], hsettings⟩

theorem Follows.of_keeps {a b : ThreadActor} (h : KeepsSettings a b) : Follows a b := by
  obtain ⟨ops, haccepted, hops⟩ := h.world.accepted
  refine ⟨ops, haccepted, ?_⟩
  unfold TurnSettings.after turnSettings
  rw [acceptedOverrides_of_none hops, h.config, h.modeKind]
  rfl

/-- Applying a collaboration preset gives a mode of the preset's kind. -/
def AppliesKind (codex : Codex) : Prop :=
  ∀ base mask kind, mask.mode = some kind → (codex.applyMask base mask).mode = kind

theorem appliesKind_sample : AppliesKind Codex.sample := by
  intro base mask kind h
  show mask.mode.getD base.mode = kind
  rw [h]
  rfl

theorem collaborationModeForKind_mode {codex : Codex} (hkind : AppliesKind codex)
    {kind : ModeKind} {model : String} {effort : Option ReasoningEffort}
    {mode : CollaborationMode} (h : collaborationModeForKind codex kind model effort = some mode) :
    mode.mode = kind := by
  obtain ⟨mask, hfind, rfl⟩ := Option.map_eq_some_iff.mp h
  have hmask := List.find?_some hfind
  exact hkind _ mask kind (of_decide_eq_true hmask)

/-- What a setter writes is what its override sets. -/
theorem Setting.turnSettings_eq {codex : Codex} (hkind : AppliesKind codex) {a b : ThreadActor}
    {overrides : ThreadSettingsOverrides} (h : Setting codex a overrides b) :
    b.turnSettings = a.turnSettings.override overrides := by
  cases h with
  | selection | reasoningEffort | serviceTier => rfl
  -- A preset overrides security settings only.
  | approvalPreset => exact (TurnSettings.override_security _ rfl rfl rfl rfl).symm
  | collaborationMode hmode =>
    have hmodeKind := collaborationModeForKind_mode hkind hmode
    unfold turnSettings TurnSettings.override
    simp [hmodeKind]

theorem Setting.follows {codex : Codex} (hkind : AppliesKind codex) {a b : ThreadActor}
    {overrides : ThreadSettingsOverrides} (h : Setting codex a overrides b) (id : String) :
    Follows a (b.accept (.threadSettings overrides) id) := by
  refine ⟨[(.threadSettings overrides, id)], ?_, h.turnSettings_eq hkind⟩
  cases h <;> rfl

/-- **Every move of a settings handler follows the overrides.** -/
theorem followsFrame {codex : Codex} (hkind : AppliesKind codex) :
    SettingsFrame codex Follows where
  refl := Follows.refl
  trans h h' := h.trans h'
  called a := .of_keeps (called_keeps a)
  saved a value := .of_keeps (saved_keeps value a)
  plainSetting h _ id := h.follows hkind id
  setting h id := h.follows hkind id
  permissions _ _ := .of_eq rfl rfl
  reviewBranch _ _ := .of_eq rfl rfl
  goal goal a := .of_keeps (rememberGoal_keeps goal a)
  emit a := by
    unfold maybeEmitConfigOptionsUpdate
    dsimp only
    split
    · exact .refl a
    · exact .of_eq rfl rfl

/-! ## Runs -/

/-- The step starts no turn, now or in a replayed history. -/
def startsNoTurn : Label → Bool
  | .event event => !startsTurn event.msg
  | .message (.replayHistory history) => !history.any startsTurnItem
  | _ => true

theorem follows_step {codex : Codex} (hkind : AppliesKind codex) {r r' : Running} {l : Label}
    (hl : startsNoTurn l = true) (hstep : r.step codex l = some r') :
    Follows r.actor r'.actor := by
  have hR := followsFrame hkind
  cases settings_effect hstep with
  | kept h => exact .of_keeps h
  | turnStarted hstarts =>
    rcases hstarts with ⟨event, rfl, hstarts⟩ | ⟨history, rfl, hstarts⟩
    · simp [startsNoTurn, hstarts] at hl
    · simp [startsNoTurn, hstarts] at hl
  | modelsChanged models h => rw [h]; exact .of_eq rfl rfl
  | load h =>
    rw [h]
    exact (hR.handleLoad_frame _).trans (.of_keeps (answer_keeps ..))
  | setMode mode h =>
    rw [h]
    exact ((hR.handleSetMode_frame mode _).trans (.of_keeps (answer_keeps ..))).trans (hR.emit _)
  | setConfigOption configId value h =>
    rw [h]
    exact (hR.handleSetConfigOption_frame configId value _).trans (.of_keeps (answer_keeps ..))
  | prompt hitems hb h =>
    exact (Follows.of_keeps hb).trans
      ((hR.promptSubmissionForItems_frame _ _).trans (.of_keeps h))

/-! ## Failed requests -/

/-- The requests that set a turn setting. -/
inductive SettingsRequest where
  /-- A load, which normalises the model. -/
  | load
  | setMode (mode : SessionModeId)
  | setConfigOption (configId : SessionConfigId) (value : SessionConfigOptionValue)
  /-- `/plan`. -/
  | switchCollaborationMode (kind : ModeKind)
  /-- `/fast`. -/
  | switchServiceTier (serviceTier : Option ServiceTier)

/-- The handler of a request, with its reply dropped. -/
def SettingsRequest.handle (codex : Codex) : SettingsRequest → Handler ThreadActor Error Unit
  | load => do let _ ← handleLoad codex
  | setMode mode => handleSetMode codex mode
  | setConfigOption configId value => handleSetConfigOption codex configId value
  | switchCollaborationMode kind => switchCollaborationModeAndEmit codex kind
  | switchServiceTier serviceTier => do let _ ← setServiceTierAndEmit codex serviceTier

section Fails

variable {codex : Codex}

/-- Calls and goals write no turn setting. -/
theorem sameTurnSettings : CallFrame fun a b => b.turnSettings = a.turnSettings where
  refl _ := rfl
  trans h h' := h'.trans h
  called _ := rfl
  saved _ _ := rfl
  goal goal a := by
    obtain ⟨⟨hconfig, _, _⟩, hmode⟩ := rememberGoal_keeps goal a
    unfold turnSettings
    rw [hconfig, hmode]

/-- A preset never moves the turn settings, whole or half applied. -/
theorem handleSetApprovalPreset_turnSettings (mode : SessionModeId) :
    Handler.Frame (fun a b => b.turnSettings = a.turnSettings)
      (handleSetApprovalPreset codex mode) := by
  intro a
  unfold handleSetApprovalPreset
  cases codex.approvalPresets.find? (mode = ·.id) with
  | none => rfl
  | some preset =>
    dsimp only
    rw [Handler.bind_run, submitOk_run]
    cases codex.submit a.world.calls (overrideApprovalPreset preset) with
    | error e => rfl
    | ok id => exact localMoves_turnSettings codex preset a id

theorem handleSetReviewTarget_turnSettings (value : String) :
    Handler.Frame (fun a b => b.turnSettings = a.turnSettings) (handleSetReviewTarget value) := by
  unfold handleSetReviewTarget
  split
  · exact fun _ => rfl
  split
  · exact fun _ => rfl
  dsimp only
  split <;> exact fun _ => rfl

theorem handleSetMode_fails (mode : SessionModeId) :
    Handler.FailFrame (fun a b => b.turnSettings = a.turnSettings) (handleSetMode codex mode) := by
  unfold handleSetMode
  split
  · exact Handler.failFrame_of_frame (handleSetApprovalPreset_turnSettings _)
  split
  · exact sameTurnSettings.fail_fails _
  · exact sameTurnSettings.applyCollaborationModeKind_fails _

theorem handleSetConfigOption_fails (configId : SessionConfigId)
    (value : SessionConfigOptionValue) :
    Handler.FailFrame (fun a b => b.turnSettings = a.turnSettings)
      (handleSetConfigOption codex configId value) := by
  have hR := sameTurnSettings
  unfold handleSetConfigOption
  split
  · exact hR.fail_fails _
  refine Handler.failFrame_ite (handleSetMode_fails _) ?_
  refine Handler.failFrame_ite
    (Handler.failFrame_of_frame (handleSetApprovalPreset_turnSettings _)) ?_
  refine Handler.failFrame_ite
    (Handler.failFrame_of_frame (handleSetReviewTarget_turnSettings _)) ?_
  refine Handler.failFrame_ite (hR.handleSetConfigModel_fails _) ?_
  refine Handler.failFrame_ite (hR.handleSetConfigReasoningEffort_fails _) ?_
  exact Handler.failFrame_ite (hR.handleSetServiceTier_fails _) (hR.fail_fails _)

/-- **Every settings request that fails leaves the turn settings as they were.** -/
theorem settingsRequest_fails (request : SettingsRequest) :
    Handler.FailFrame (fun a b => b.turnSettings = a.turnSettings) (request.handle codex) := by
  have hR := sameTurnSettings
  cases request with
  | load => exact Handler.failFrame_then hR.handleLoad_fails fun _ a => ⟨(), rfl⟩
  | setMode mode => exact handleSetMode_fails mode
  | setConfigOption configId value => exact handleSetConfigOption_fails configId value
  | switchCollaborationMode kind =>
    exact Handler.failFrame_then (hR.applyCollaborationModeKind_fails kind) fun _ a => ⟨(), rfl⟩
  | switchServiceTier serviceTier =>
    refine Handler.failFrame_then ?_ fun _ a => ⟨(), rfl⟩
    exact Handler.failFrame_then (hR.setServiceTier_fails serviceTier) fun _ a => ⟨_, rfl⟩

end Fails

/-- **The local settings.** On every run that starts no turn, whatever submits
were refused: the turn settings are the accepted overrides folded over the ones
the actor was spawned with, and a request that fails in the state reached leaves
them as they are. -/
theorem turnSettings_mirror {codex : Codex} (hkind : AppliesKind codex) (config : Config)
    (models : ModelsManager) (labels : List Label) (r : Running)
    (hturns : Along (Running.step codex) (fun _ l _ => startsNoTurn l = true)
      (.start config models) labels)
    (hrun : exec (Running.step codex) (.start config models) labels = some r) :
    r.actor.turnSettings =
        (Running.start config models).actor.turnSettings.after r.actor.world.accepted ∧
      ∀ (request : SettingsRequest) (err : Error) (b : ThreadActor),
        request.handle codex r.actor = (.error err, b) → b.turnSettings = r.actor.turnSettings := by
  refine ⟨?_, fun request err b h => settingsRequest_fails request r.actor err b h⟩
  have hfollows : Follows (Running.start config models).actor r.actor := by
    refine exec_invariant (I := fun r => Follows (Running.start config models).actor r.actor) ?_
      labels (Follows.refl _) hturns hrun
    exact fun r l r' hI hl hstep => hI.trans (follows_step hkind hl hstep)
  -- The actor was spawned with nothing accepted, so what was accepted since is everything.
  obtain ⟨ops, haccepted, hsettings⟩ := hfollows
  rw [hsettings, haccepted]
  rfl

/-- The service tier and the mode are set, and the mode is asked for again under
a name it does not have. -/
theorem turnSettings_mirror_planFast :
    ∃ r, exec (Running.step Codex.sample) (.start Config.sample ModelsManager.sample)
        [.message (.setConfigOption "service_tier" (.valueId "fast")), .collect,
         .message (.setMode "plan"), .collect, .message (.setMode "planning")] = some r ∧
      (Running.start Config.sample ModelsManager.sample).actor.turnSettings.after
          r.actor.world.accepted =
        ⟨some "gpt-5.5", some .high, some "priority", some .plan⟩ ∧
      r.actor.turnSettings =
        (Running.start Config.sample ModelsManager.sample).actor.turnSettings.after
          r.actor.world.accepted :=
  ⟨_, rfl, rfl, (turnSettings_mirror appliesKind_sample Config.sample ModelsManager.sample
    [.message (.setConfigOption "service_tier" (.valueId "fast")), .collect,
     .message (.setMode "plan"), .collect, .message (.setMode "planning")] _
    (by decide +kernel) rfl).1⟩

end CodexAcp.Thread
