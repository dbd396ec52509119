import CodexAcp.Thread.Preset
import CodexAcp.Thread.SettingsEffect

/-!
# The settings a request reaches

A mode change or a slash command asks for one setting: a collaboration mode, a
service tier or an approval preset. Whether it gets it is up to Codex and to the
constraints of the configuration, and both can be asked before the request is
handled. So the settings a request leads to are known from the state it finds.

> `handleSetMode_reaches`, `handleSlashCommand_reaches`: the handlers leave the
> settings they were bound to reach.
> `handleMessage_reaches`: so do the messages that run them.
-/

namespace CodexAcp.Thread

open CodexAcp.Lib CodexAcp.Protocol CodexAcp.Boundary ThreadActor

/-! ## What is asked for -/

/-- A setting that a request asks for. -/
inductive SettingAsked where
  | collaborationMode (kind : ModeKind)
  | serviceTier (tier : Option ServiceTier)
  | approvalPreset (mode : SessionModeId)
  deriving DecidableEq, Repr

/-- The setting behind a mode, if there is such a mode. -/
def modeAsks (mode : SessionModeId) : Option SettingAsked :=
  match approvalPresetIdForAgentMode mode with
  | some presetId => some (.approvalPreset presetId)
  | none => (collaborationModeKindFromId mode).map .collaborationMode

def fastCommandAsks (codex : Codex) (args : String) (a : ThreadActor) : Option SettingAsked :=
  let arg := Text.toAsciiLowercase (Text.trim args)
  if !a.fastModeConfigurable then none
  else if arg = "" then
    some (.serviceTier
      (if a.config.serviceTier.bind codex.serviceTierFromRequestValue = some .fast then none
       else some .fast))
  else if arg = "on" then some (.serviceTier (some .fast))
  else if arg = "off" then some (.serviceTier none)
  else none

def planCommandAsks (rest : String) : SettingAsked :=
  let trimmed := Text.trim rest
  .collaborationMode
    (if trimmed = "" || trimmed = "on" then .plan
     else if trimmed = "off" || trimmed = "default" || trimmed = "code" then .default
     else .plan)

/-- The setting a slash command asks for; most ask for none. -/
def slashCommandAsks (codex : Codex) (name rest : String) (a : ThreadActor) :
    Option SettingAsked :=
  if name = "fast" then fastCommandAsks codex rest a
  else if name = "approvals" || name = "permissions" then
    (approvalPresetIdForAgentMode (Text.trim rest)).map .approvalPreset
  else if name = "plan" then some (planCommandAsks rest)
  else none

def promptAsks (codex : Codex) (items : List UserInput) (a : ThreadActor) :
    Option SettingAsked :=
  match extractSlashCommand items with
  | none => none
  | some (name, rest) => slashCommandAsks codex name rest a

/-! ## What is reached -/

/-- Codex accepts an override of the collaboration mode as its next call. -/
def modeAccepted (codex : Codex) (a : ThreadActor) (mode : CollaborationMode) : Bool :=
  (codex.submit a.world.calls (overrideCollaborationMode mode)).isOk

/-- The configuration file takes a tier, and then Codex its override. -/
def tierAccepted (codex : Codex) (a : ThreadActor) (value : Option String) : Bool :=
  (codex.editServiceTier a.world.calls value).isOk &&
    (codex.submit (a.world.calls + 1) (overrideServiceTier value)).isOk

namespace ThreadActor

def withModeKind (kind : ModeKind) (a : ThreadActor) : ThreadActor :=
  { a with state := { a.state with activeCollaborationModeKind := some kind } }

def withServiceTier (value : Option String) (a : ThreadActor) : ThreadActor :=
  { a with config := { a.config with serviceTier := value } }

end ThreadActor

/-- The actor with the setting, if nothing stands in its way. -/
def SettingAsked.reached (codex : Codex) (a : ThreadActor) : SettingAsked → ThreadActor
  | .collaborationMode kind =>
    match collaborationModeForKind codex kind a.getCurrentModel a.config.modelReasoningEffort with
    | none => a
    | some mode => if modeAccepted codex a mode then a.withModeKind kind else a
  | .serviceTier tier =>
    let value := tier.map codex.serviceTierRequestValue
    if tierAccepted codex a value then a.withServiceTier value else a
  | .approvalPreset mode =>
    match codex.approvalPresets.find? (mode = ·.id) with
    | none => a
    -- A preset refused halfway leaves what was written before.
    | some preset =>
      if overrideAccepted codex a preset then movedBy preset a else a

def reachedBy (codex : Codex) (a : ThreadActor) : Option SettingAsked → ThreadActor
  | none => a
  | some asked => asked.reached codex a

/-- The actor with the settings a message leads to. -/
def messageReaches (codex : Codex) (a : ThreadActor) (m : ThreadMessage) : ThreadActor :=
  match m with
  | .setMode mode => reachedBy codex a (modeAsks mode)
  | m =>
    match messagePrompt codex a m with
    | none => a
    | some (items, b) => reachedBy codex b (promptAsks codex items b)

/-! ## The same settings -/

/-- The two actors have the same configuration, collaboration mode and models. -/
structure SameSettings (a b : ThreadActor) : Prop where
  config : b.config = a.config
  modeKind : b.state.activeCollaborationModeKind = a.state.activeCollaborationModeKind
  models : b.world.models = a.world.models

theorem SameSettings.refl (a : ThreadActor) : SameSettings a a := ⟨rfl, rfl, rfl⟩

theorem SameSettings.trans {a b c : ThreadActor} (h : SameSettings a b)
    (h' : SameSettings b c) : SameSettings a c :=
  ⟨h'.config.trans h.config, h'.modeKind.trans h.modeKind, h'.models.trans h.models⟩

theorem KeepsSettings.same {a b : ThreadActor} (h : KeepsSettings a b) : SameSettings a b :=
  ⟨h.config, h.modeKind, h.world.models⟩

theorem SameSettings.turnSettings_eq {a b : ThreadActor} (h : SameSettings a b) :
    b.turnSettings = a.turnSettings := by
  unfold turnSettings
  rw [h.config, h.modeKind]

theorem SameSettings.securitySettings_eq {a b : ThreadActor} (h : SameSettings a b) :
    b.securitySettings = a.securitySettings := by
  unfold securitySettings
  rw [h.config]

/-- The options depend on the configuration, the collaboration mode and the models. -/
theorem SameSettings.configOptions_eq {codex : Codex} {a b : ThreadActor}
    (h : SameSettings a b) : b.configOptions codex = a.configOptions codex := by
  unfold configOptions modeOption modes approvalPresetOption approvalPresetConfigOption
    modelOption reasoningEffortOption serviceTierOption currentPreset modelPresets
    getCurrentModel fastModeConfigurable currentServiceTierValue
    ActorState.collaborationModeKindOrDefault
  rw [h.config, h.modeKind, h.models]

/-- Telling the editor about the options leaves them as they are. -/
theorem emit_same (codex : Codex) (a : ThreadActor) :
    SameSettings a (a.maybeEmitConfigOptionsUpdate codex) := by
  unfold maybeEmitConfigOptionsUpdate
  dsimp only
  split
  · exact .refl a
  · exact ⟨rfl, rfl, rfl⟩

/-! ## The setters -/

/-- Every run of the handler leaves the settings it was bound to reach. -/
def Reaches {α : Type} (codex : Codex) (asks : ThreadActor → Option SettingAsked)
    (x : Handler ThreadActor Error α) : Prop :=
  ∀ a, SameSettings (reachedBy codex a (asks a)) (x a).2

section Setters

variable {codex : Codex} {α β : Type} {asks : ThreadActor → Option SettingAsked}

/-- What follows leaves the settings alone. -/
theorem reaches_then {x : Handler ThreadActor Error α} {f : α → Handler ThreadActor Error β}
    (hx : Reaches codex asks x) (hf : ∀ v a, SameSettings a (f v a).2) :
    Reaches codex asks (x >>= f) := by
  intro a
  have h := hx a
  rw [Handler.bind_run]
  match hrun : x a with
  | (.ok v, b) => rw [hrun] at h; exact h.trans (hf v b)
  | (.error e, b) => rw [hrun] at h; exact h

theorem applyCollaborationModeKind_reaches (kind : ModeKind) :
    Reaches codex (fun _ => some (.collaborationMode kind))
      (applyCollaborationModeKind codex kind) := by
  intro a
  unfold reachedBy SettingAsked.reached applyCollaborationModeKind modeAccepted
  rw [Handler.bind_run, Handler.reads_run]
  dsimp only [id]
  cases collaborationModeForKind codex kind a.getCurrentModel a.config.modelReasoningEffort with
  | none => exact .refl a
  | some mode =>
    dsimp only
    rw [Handler.bind_run, submitOk_run]
    cases codex.submit a.world.calls (overrideCollaborationMode mode) with
    | ok id => exact ⟨rfl, rfl, rfl⟩
    | error e => exact ⟨rfl, rfl, rfl⟩

theorem setServiceTier_reaches (serviceTier : Option ServiceTier) :
    Reaches codex (fun _ => some (.serviceTier serviceTier))
      (setServiceTier codex serviceTier) := by
  intro a
  unfold reachedBy SettingAsked.reached setServiceTier tierAccepted
  dsimp only
  generalize serviceTier.map codex.serviceTierRequestValue = value
  rw [Handler.bind_run, editServiceTier_run]
  cases codex.editServiceTier a.world.calls value with
  | error e => exact ⟨rfl, rfl, rfl⟩
  | ok _ =>
    dsimp only
    rw [Handler.bind_run, submitOk_run]
    show SameSettings (if (true && _) then _ else _) _
    rw [show (a.saved value).world.calls = a.world.calls + 1 from rfl]
    cases codex.submit (a.world.calls + 1) (overrideServiceTier value) with
    | ok id => exact ⟨rfl, rfl, rfl⟩
    | error e => exact ⟨rfl, rfl, rfl⟩

/-- The local moves of a preset leave the moved permissions, and no other setting. -/
theorem localMoves_reaches (codex : Codex) (preset : ApprovalPreset) (a : ThreadActor) (id : String) :
    SameSettings (movedBy preset a)
      (localMoves codex preset (a.accept (overrideApprovalPreset preset) id)).2 := by
  obtain ⟨-, hconfig, hstate, hmodels, -⟩ := localMoves_run codex preset a id
  exact ⟨hconfig, congrArg (·.activeCollaborationModeKind) hstate, hmodels⟩

theorem handleSetApprovalPreset_reaches (mode : SessionModeId) :
    Reaches codex (fun _ => some (.approvalPreset mode)) (handleSetApprovalPreset codex mode) := by
  intro a
  unfold reachedBy SettingAsked.reached handleSetApprovalPreset overrideAccepted
  dsimp only
  cases codex.approvalPresets.find? (mode = ·.id) with
  | none => exact .refl a
  | some preset =>
    dsimp only
    rw [Handler.bind_run, submitOk_run]
    cases codex.submit a.world.calls (overrideApprovalPreset preset) with
    | error e => exact ⟨rfl, rfl, rfl⟩
    | ok id => exact localMoves_reaches codex preset a id

/-- **Modes.** Setting a mode reaches what it asks for. -/
theorem handleSetMode_reaches (mode : SessionModeId) :
    Reaches codex (fun _ => modeAsks mode) (handleSetMode codex mode) := by
  unfold handleSetMode modeAsks
  cases approvalPresetIdForAgentMode mode with
  | some presetId => exact handleSetApprovalPreset_reaches presetId
  | none =>
    cases collaborationModeKindFromId mode with
    | none => exact fun a => .refl a
    | some kind => exact applyCollaborationModeKind_reaches kind

/-! ## Slash commands -/

theorem switchCollaborationModeAndEmit_reaches (kind : ModeKind) :
    Reaches codex (fun _ => some (.collaborationMode kind))
      (switchCollaborationModeAndEmit codex kind) :=
  reaches_then (applyCollaborationModeKind_reaches kind) fun _ a => emit_same codex a

theorem setServiceTierAndEmit_reaches (serviceTier : Option ServiceTier) :
    Reaches codex (fun _ => some (.serviceTier serviceTier))
      (setServiceTierAndEmit codex serviceTier) :=
  reaches_then (setServiceTier_reaches serviceTier) fun _ a => emit_same codex a

theorem handleFastCommand_reaches (args : String) :
    Reaches codex (fastCommandAsks codex args) (handleFastCommand codex args) := by
  intro a
  unfold handleFastCommand fastCommandAsks
  rw [Handler.bind_run, Handler.reads_run]
  dsimp only [id]
  split
  · exact .refl a
  split
  · exact setServiceTierAndEmit_reaches _ a
  split
  · exact setServiceTierAndEmit_reaches _ a
  split
  · exact setServiceTierAndEmit_reaches _ a
  split <;> exact .refl a

theorem handlePermissionsCommand_reaches (rest : String) :
    Reaches codex
      (fun _ => (approvalPresetIdForAgentMode (Text.trim rest)).map .approvalPreset)
      (handlePermissionsCommand codex rest) := by
  unfold handlePermissionsCommand
  cases approvalPresetIdForAgentMode (Text.trim rest) with
  | none => exact fun a => .refl a
  | some mode =>
    exact reaches_then (handleSetApprovalPreset_reaches mode) fun _ a => emit_same codex a

theorem handlePlanCommand_reaches (rest : String) (items : List UserInput) :
    Reaches codex (fun _ => some (planCommandAsks rest))
      (handlePlanCommand codex rest items) := by
  have hswitch : ∀ kind submission,
      Reaches codex (fun _ => some (.collaborationMode kind))
        (do switchCollaborationModeAndEmit codex kind
            pure submission : Handler ThreadActor Error PromptSubmission) :=
    fun kind _ => reaches_then (switchCollaborationModeAndEmit_reaches kind) fun _ a => .refl a
  unfold handlePlanCommand planCommandAsks
  dsimp only
  generalize Text.trim rest = trimmed
  by_cases hon : (trimmed = "" || trimmed = "on") = true
  · rw [if_pos hon, if_pos hon]
    exact hswitch _ _
  rw [if_neg hon, if_neg hon]
  by_cases hoff : (trimmed = "off" || trimmed = "default" || trimmed = "code") = true
  · rw [if_pos hoff, if_pos hoff]
    exact hswitch _ _
  · rw [if_neg hoff, if_neg hoff]
    exact hswitch _ _

/-! ## All slash commands -/

/-- The slash commands that ask for a setting. -/
def setsSettings (name : String) : Bool :=
  name = "fast" || name = "approvals" || name = "permissions" || name = "plan"

/-- What a slash command runs. -/
inductive CommandRuns (codex : Codex) (name rest : String) (items : List UserInput) :
    Handler ThreadActor Error PromptSubmission → Prop where
  | quiet {x : Handler ThreadActor Error PromptSubmission} (hname : setsSettings name = false)
      (h : Handler.Frame KeepsSettings x) : CommandRuns codex name rest items x
  | fast (hname : name = "fast") :
      CommandRuns codex name rest items ((.handled <| .text ·) <$> handleFastCommand codex rest)
  | permissions (hname : name = "approvals" ∨ name = "permissions") :
      CommandRuns codex name rest items
        ((.handled <| .text ·) <$> handlePermissionsCommand codex rest)
  | plan (hname : name = "plan") :
      CommandRuns codex name rest items (handlePlanCommand codex rest items)

variable {name rest : String} {items : List UserInput}

theorem commandRuns_ite {c : Prop} [Decidable c] {x y : Handler ThreadActor Error PromptSubmission}
    (hx : c → CommandRuns codex name rest items x)
    (hy : ¬ c → CommandRuns codex name rest items y) :
    CommandRuns codex name rest items (if c then x else y) := by
  split
  next h => exact hx h
  next h => exact hy h

/-- **Slash commands** leave the settings alone, except for three of them. -/
theorem handleSlashCommand_runs (codex : Codex) (name rest : String) (items : List UserInput) :
    CommandRuns codex name rest items (handleSlashCommand codex name rest items) := by
  have hR := keepsFrame
  have hone : ∀ {command x}, setsSettings command = false → Handler.Frame KeepsSettings x →
      name = command → CommandRuns codex name rest items x :=
    fun hcommand hx hname => .quiet (hname ▸ hcommand) hx
  have htwo : ∀ {command command' x}, setsSettings command = false →
      setsSettings command' = false → Handler.Frame KeepsSettings x →
      (decide (name = command) || decide (name = command')) = true →
      CommandRuns codex name rest items x := by
    intro command command' x hcommand hcommand' hx hname
    rw [Bool.or_eq_true, decide_eq_true_eq, decide_eq_true_eq] at hname
    exact hname.elim (hone hcommand hx) (hone hcommand' hx)
  have hargs : ∀ {command x}, setsSettings command = false → Handler.Frame KeepsSettings x →
      (decide (name = command) && decide (rest ≠ "")) = true →
      CommandRuns codex name rest items x := by
    intro command x hcommand hx hname
    rw [Bool.and_eq_true, decide_eq_true_eq] at hname
    exact hone hcommand hx hname.1
  unfold handleSlashCommand
  refine commandRuns_ite (hone rfl (hR.pure _)) fun _ => ?_
  refine commandRuns_ite (hone rfl (hR.pure _)) fun _ => ?_
  refine commandRuns_ite (hone rfl (hR.pure _)) fun _ => ?_
  refine commandRuns_ite (hone rfl (Handler.frame_reads .refl _)) fun _ => ?_
  refine commandRuns_ite (hargs rfl (hR.pure _)) fun _ => ?_
  refine commandRuns_ite (hargs rfl (hR.pure _)) fun _ => ?_
  refine commandRuns_ite (hone rfl (hR.pure _)) fun _ => ?_
  refine commandRuns_ite (hone rfl (hR.pure _)) fun _ => ?_
  refine commandRuns_ite (hone rfl (hR.map (hR.handleGoalCommand_frame rest))) fun _ => ?_
  refine commandRuns_ite .fast fun hfast => ?_
  refine commandRuns_ite (htwo rfl rfl (hR.pure _)) fun _ => ?_
  refine commandRuns_ite (hone rfl (hR.pure _)) fun _ => ?_
  refine commandRuns_ite (hone rfl (hR.pure _)) fun _ => ?_
  refine commandRuns_ite (hone rfl (hR.pure _)) fun _ => ?_
  refine commandRuns_ite (fun h => .permissions (by simpa using h)) fun hpermissions => ?_
  refine commandRuns_ite .plan fun hplan => ?_
  refine commandRuns_ite (hone rfl (hR.bind (hR.call _) fun _ => hR.fail _)) fun _ => ?_
  -- No command of the editor: the text is a prompt.
  refine .quiet ?_ (hR.pure _)
  simp at hpermissions
  simp [setsSettings, hfast, hpermissions, hplan]

theorem slashCommandAsks_quiet (h : setsSettings name = false) (a : ThreadActor) :
    slashCommandAsks codex name rest a = none := by
  simp only [setsSettings, Bool.or_eq_false_iff, decide_eq_false_iff_not] at h
  simp [slashCommandAsks, h]

/-- Slash commands reach the setting they ask for. -/
theorem handleSlashCommand_reaches :
    Reaches codex (slashCommandAsks codex name rest)
      (handleSlashCommand codex name rest items) := by
  have hruns := handleSlashCommand_runs codex name rest items
  generalize handleSlashCommand codex name rest items = x at hruns
  intro a
  cases hruns with
  | quiet hname h =>
    rw [slashCommandAsks_quiet hname]
    exact (h a).same
  | fast hname =>
    rw [Handler.map_state, slashCommandAsks, if_pos hname]
    exact handleFastCommand_reaches rest a
  | permissions hname =>
    have hfast : name ≠ "fast" := by rcases hname with rfl | rfl <;> decide
    rw [Handler.map_state, slashCommandAsks, if_neg hfast, if_pos (by simpa using hname)]
    exact handlePermissionsCommand_reaches rest a
  | plan hname =>
    subst hname
    exact handlePlanCommand_reaches rest items a

theorem promptSubmissionForItems_reaches (items : List UserInput) :
    Reaches codex (promptAsks codex items) (promptSubmissionForItems codex items) := by
  unfold promptSubmissionForItems promptAsks
  cases extractSlashCommand items with
  | none => exact fun a => .refl a
  | some command => exact handleSlashCommand_reaches

end Setters

/-! ## Messages -/

section Messages

variable {codex : Codex} {a a' : ThreadActor}

/-- A message leaves the settings its slash command reaches, if it has one. -/
theorem messageReaches_of_prompt {m : ThreadMessage} (hmode : ∀ mode, m ≠ .setMode mode)
    (h : match messagePrompt codex a m with
      | none => KeepsSettings a a'
      | some (items, b) => KeepsSettings (promptSubmissionForItems codex items b).2 a') :
    SameSettings (messageReaches codex a m) a' := by
  have hreaches : messageReaches codex a m =
      match messagePrompt codex a m with
      | none => a
      | some (items, b) => reachedBy codex b (promptAsks codex items b) := by
    cases m with
    | setMode mode => exact absurd rfl (hmode mode)
    | _ => rfl
  rw [hreaches]
  match hprompt : messagePrompt codex a m with
  | none =>
    rw [hprompt] at h
    exact h.same
  | some (items, b) =>
    rw [hprompt] at h
    exact (promptSubmissionForItems_reaches items b).trans h.same

/-- **Messages.** A mode change, a prompt and a steering request leave the
settings they were bound to reach. -/
theorem handleMessage_reaches (codex : Codex) (a : ThreadActor) {m : ThreadMessage}
    (hm : (∃ mode, m = .setMode mode) ∨ (∃ request, m = .prompt request) ∨
      ∃ request, m = .steer request) :
    SameSettings (messageReaches codex a m) (a.handleMessage codex m) := by
  rcases hm with ⟨mode, rfl⟩ | ⟨request, rfl⟩ | ⟨request, rfl⟩
  · have hanswer := answer_keeps .done (handleSetMode codex mode) a
    exact ((handleSetMode_reaches mode a).trans hanswer.same).trans (emit_same codex _)
  · refine messageReaches_of_prompt (fun _ => nofun) ?_
    have h := handlePrompt_settings codex request a
    have hanswer := answer_keeps .prompt (handlePrompt codex request) a
    show match freshPrompt codex request a with
      | none => _
      | some (items, b) => _
    cases hstart : freshPrompt codex request a with
    | none => rw [hstart] at h; exact h.trans hanswer
    | some start => rw [hstart] at h; exact h.trans hanswer
  · refine messageReaches_of_prompt (fun _ => nofun) ?_
    have h := handleSteer_settings codex request a
    have hanswer := answer_keeps .steer (handleSteer codex request) a
    cases hstart : messagePrompt codex a (.steer request) with
    | none => rw [hstart] at h; exact h.trans hanswer
    | some start => rw [hstart] at h; exact h.trans hanswer

end Messages

end CodexAcp.Thread
