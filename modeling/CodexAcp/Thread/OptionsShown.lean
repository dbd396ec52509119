import CodexAcp.Thread.AutoApproval
import CodexAcp.Thread.ModelPicker
import CodexAcp.Thread.ServiceTier

/-!
# The options shown

The values of the model option are the presets offered, and its current value is
found by a lookup with two fallbacks; the efforts are those of the preset that the
lookup finds, and one of them is set for the preset of the very model in use.

> `selects_valid_iff`: the current values of the model and of the effort are among
> the values listed, throughout a run, exactly when the lookup does not fall back on
> a hidden preset.
> `options_agree_iff`: every value listed can be set and is then the current one,
> throughout a run, exactly when no effort is listed for a preset other than the one
> of the model in use.
-/

namespace CodexAcp.Thread

open CodexAcp.Lib CodexAcp.Protocol CodexAcp.Boundary ThreadActor

/-! ## The options of an actor -/

/-- The current value of a select option is one of the values listed. -/
def ListsCurrent (option : SessionConfigOption) : Prop :=
  option.currentValue ∈ option.options.map (·.value)

instance (option : SessionConfigOption) : Decidable (ListsCurrent option) :=
  inferInstanceAs (Decidable (_ ∈ _))

section Options

variable {codex : Codex} {a : ThreadActor} {option : SessionConfigOption}

theorem approvalPresetOption_id (h : option ∈ a.approvalPresetOption codex) :
    option.id = "approval_preset" := by
  obtain ⟨_, -, rfl⟩ := Option.map_eq_some_iff.mp h
  rfl

theorem serviceTierOption_id (h : option ∈ a.serviceTierOption codex) :
    option.id = "service_tier" := by
  unfold serviceTierOption at h
  split at h <;> cases h
  rfl

theorem mem_configOptions :
    option ∈ a.configOptions codex ↔
      option = a.modeOption ∨ option ∈ a.approvalPresetOption codex ∨ option = a.modelOption ∨
        option ∈ a.reasoningEffortOption codex ∨ option ∈ a.serviceTierOption codex := by
  unfold configOptions
  simp only [List.mem_append, List.mem_singleton, Option.mem_toList, or_assoc]
  exact Iff.rfl

/-- The effort option, where the preset in use supports several efforts. -/
theorem mem_reasoningEffortOption :
    option ∈ a.reasoningEffortOption codex ↔
      ∃ p, a.currentPreset = some p ∧ 1 < p.supportedReasoningEfforts.length ∧
        option =
          { id := "reasoning_effort", name := "Reasoning Effort"
            currentValue := codex.effortDisplay
              (effectiveReasoningEffort p a.config.modelReasoningEffort)
            options := p.supportedReasoningEfforts.map fun e =>
              { value := codex.effortDisplay e.effort
                name := codex.titleCase (codex.effortDisplay e.effort)
                description := some e.description }
            category := some .thoughtLevel
            description := some "Choose how much reasoning effort the model should use" } := by
  unfold reasoningEffortOption
  cases a.currentPreset with
  | none => simp
  | some p =>
    dsimp only
    by_cases hseveral : p.supportedReasoningEfforts.length > 1
    · rw [if_pos hseveral]
      constructor
      · intro h
        cases h
        exact ⟨p, rfl, hseveral, rfl⟩
      · rintro ⟨_, ⟨⟩, -, rfl⟩
        rfl
    · rw [if_neg hseveral]
      refine ⟨nofun, ?_⟩
      rintro ⟨_, ⟨⟩, h, -⟩
      exact absurd h hseveral

end Options

/-! ## Current values -/

/-- The current values of the model and of the effort are among the values listed. -/
def SelectsValid (codex : Codex) (a : ThreadActor) : Prop :=
  ∀ option ∈ a.configOptions codex, option.id = "model" ∨ option.id = "reasoning_effort" →
    ListsCurrent option

/-- No two presets share an id, and those offered support the effort they default to. -/
structure SoundPresets (a : ThreadActor) : Prop where
  ids : (a.world.models.listModels.map (·.id)).Nodup
  efforts : ∀ p ∈ a.modelPresets, supportsReasoningEffort p p.defaultReasoningEffort = true

/-- The condition: the model in use or the default one is offered, or else the first one
offered is not hidden. -/
def CurrentListed (a : ThreadActor) : Prop :=
  (∃ p ∈ a.modelPresets, p.model = a.getCurrentModel ∨ p.isDefault = true) ∨
    ∀ p ∈ a.modelPresets.head?, p.showInPicker = true

section Current

variable {codex : Codex} {a : ThreadActor}

/-- A preset that is found without the model in use or a default one is the first one. -/
theorem resolveModelPreset_fallback {presets : List ModelPreset} {model : String}
    {p : ModelPreset} (h : resolveModelPreset presets (some model) = some p) :
    (∃ q ∈ presets, q.model = model ∨ q.isDefault = true) ∧
        (p.model = model ∨ p.isDefault = true) ∨
      (∀ q ∈ presets, q.model ≠ model ∧ q.isDefault = false) ∧ presets.head? = some p := by
  unfold resolveModelPreset at h
  rw [Option.bind_some] at h
  cases hmodel : presets.find? (·.model = model) with
  | some q =>
    rw [hmodel] at h
    cases h
    have hq : p.model = model := by simpa using List.find?_some hmodel
    exact .inl ⟨⟨p, List.mem_of_find?_eq_some hmodel, .inl hq⟩, .inl hq⟩
  | none =>
    rw [hmodel] at h
    cases hdefault : presets.find? (·.isDefault) with
    | some q =>
      rw [hdefault] at h
      cases h
      have hq : p.isDefault = true := by simpa using List.find?_some hdefault
      exact .inl ⟨⟨p, List.mem_of_find?_eq_some hdefault, .inr hq⟩, .inr hq⟩
    | none =>
      rw [hdefault] at h
      refine .inr ⟨fun q hq => ⟨?_, ?_⟩, h⟩
      · simpa using List.find?_eq_none.mp hmodel q hq
      · simpa using List.find?_eq_none.mp hdefault q hq

/-- The value of the model option is listed exactly when the preset it is found by is. -/
theorem modelOption_lists {p : ModelPreset}
    (hids : (a.world.models.listModels.map (·.id)).Nodup) (hp : a.currentPreset = some p) :
    ListsCurrent a.modelOption ↔
      (p.showInPicker || p.isDefault || p.model = a.getCurrentModel) = true := by
  have hmem : p ∈ a.modelPresets := resolveModelPreset_mem hp
  unfold ListsCurrent modelOption
  rw [hp]
  simp only [Option.isNone_some, Bool.false_and, Bool.false_eq_true, if_false, List.nil_append,
    List.map_map, Option.map_some, Option.getD_some]
  constructor
  · intro h
    obtain ⟨q, hq, hid⟩ := List.mem_map.mp h
    obtain ⟨hq, hshown⟩ := List.mem_filter.mp hq
    -- no two presets share an id
    rwa [← List.inj_on_of_nodup_map (offered_ids hids _) hq hmem hid]
  · exact fun hshown => List.mem_map.mpr ⟨p, List.mem_filter.mpr ⟨hmem, hshown⟩, rfl⟩

/-- **The model option** lists its current value exactly under the condition. -/
theorem modelOption_lists_iff (hids : (a.world.models.listModels.map (·.id)).Nodup) :
    ListsCurrent a.modelOption ↔ CurrentListed a := by
  unfold CurrentListed
  cases hp : a.currentPreset with
  | none =>
    have hempty : a.modelPresets = [] := resolveModelPreset_eq_none.mp hp
    rw [hempty]
    refine ⟨fun _ => .inr nofun, fun _ => ?_⟩
    unfold ListsCurrent modelOption
    rw [hp, hempty]
    simp
  | some p =>
    rw [modelOption_lists hids hp]
    simp only [Bool.or_eq_true, decide_eq_true_eq]
    rcases resolveModelPreset_fallback hp with ⟨hexists, hown⟩ | ⟨hno, hhead⟩
    · exact ⟨fun _ => .inl hexists, fun _ => by tauto⟩
    · have hother := hno p (List.mem_of_mem_head? hhead)
      rw [hhead]
      simp only [Option.mem_some_iff, forall_eq', hother.1, hother.2, or_false,
        Bool.false_eq_true]
      refine ⟨.inr, fun h => h.resolve_left ?_⟩
      rintro ⟨q, hq, hmodel | hdefault⟩
      · exact (hno q hq).1 hmodel
      · exact absurd hdefault (by simp [(hno q hq).2])

/-- The effort in effect under a preset is one that it supports, if its default is. -/
theorem supports_effectiveReasoningEffort {p : ModelPreset} (effort : Option ReasoningEffort)
    (h : supportsReasoningEffort p p.defaultReasoningEffort = true) :
    supportsReasoningEffort p (effectiveReasoningEffort p effort) = true := by
  unfold effectiveReasoningEffort
  cases hsupported : effort.filter (supportsReasoningEffort p) with
  | none => exact h
  | some e => exact (Option.filter_eq_some_iff.mp hsupported).2

theorem reasoningEffortOption_lists {option : SessionConfigOption}
    (hefforts : ∀ p ∈ a.modelPresets, supportsReasoningEffort p p.defaultReasoningEffort = true)
    (h : option ∈ a.reasoningEffortOption codex) : ListsCurrent option := by
  obtain ⟨p, hp, -, rfl⟩ := mem_reasoningEffortOption.mp h
  have hsupports := supports_effectiveReasoningEffort a.config.modelReasoningEffort
    (hefforts p (resolveModelPreset_mem hp))
  obtain ⟨e, he, heffort⟩ := List.any_eq_true.mp hsupports
  unfold ListsCurrent
  dsimp only
  rw [List.map_map, ← decide_eq_true_eq.mp heffort]
  exact List.mem_map_of_mem he

/-- The current values are valid in a state with sound presets exactly under the condition. -/
theorem selectsValid_iff (h : SoundPresets a) : SelectsValid codex a ↔ CurrentListed a := by
  rw [← modelOption_lists_iff h.ids]
  unfold SelectsValid
  constructor
  · intro hvalid
    exact hvalid a.modelOption (mem_configOptions.mpr (.inr (.inr (.inl rfl)))) (.inl rfl)
  · intro hmodel option hoption hid
    rcases mem_configOptions.mp hoption with rfl | hmem | rfl | hmem | hmem
    · have hmode : "mode" = "model" ∨ "mode" = "reasoning_effort" := hid
      exact absurd hmode (by decide)
    · rw [approvalPresetOption_id hmem] at hid
      exact absurd hid (by decide)
    · exact hmodel
    · exact reasoningEffortOption_lists h.efforts hmem
    · rw [serviceTierOption_id hmem] at hid
      exact absurd hid (by decide)

/-- **Valid selects.** From every initial configuration, throughout every run: the current
values are among those listed exactly when the preset shown as the current one is. -/
theorem selects_valid_iff (codex : Codex) (config : Config) (models : ModelsManager)
    (labels : List Label) :
    Throughout (Running.step codex) (fun r => SoundPresets r.actor → SelectsValid codex r.actor)
        (.start config models) labels ↔
      Throughout (Running.step codex) (fun r => SoundPresets r.actor → CurrentListed r.actor)
        (.start config models) labels := by
  refine throughout_congr (fun r => ?_) _ _
  exact forall_congr' fun h => selectsValid_iff h

end Current

/-- A hidden preset whose id is not its model, before one that is shown. -/
def ModelsManager.hiddenFirst : ModelsManager where
  listModels :=
    [{ id := "preview", model := "gpt-5.6", displayName := "Preview", description := ""
       defaultReasoningEffort := .high
       supportedReasoningEfforts := [⟨.high, "High"⟩, ⟨.xhigh, "Extra high"⟩]
       isDefault := false, showInPicker := false },
     { id := "gpt-5.5", model := "gpt-5.5", displayName := "GPT-5.5", description := ""
       defaultReasoningEffort := .high
       supportedReasoningEfforts := [⟨.high, "High"⟩, ⟨.xhigh, "Extra high"⟩]
       isDefault := false, showInPicker := true }]
  getModel model := model.getD "gpt-5.5"

/-- **A value that is not listed.** The hidden preset is offered because its id is configured
as the model; it is the current one, and no value of the option. -/
theorem hiddenPreset_unlisted :
    let a := (Running.start { Config.sample with model := some "preview" }
      ModelsManager.hiddenFirst).actor
    SoundPresets a ∧ a.modelOption.currentValue = "preview" ∧
      a.modelOption.options.map (·.value) = ["gpt-5.5"] ∧ ¬ SelectsValid Codex.sample a := by
  dsimp only
  refine ⟨⟨by decide, by decide +kernel⟩, by decide +kernel, by decide +kernel, fun h => ?_⟩
  have hmodel := h _ (mem_configOptions.mpr (.inr (.inr (.inl rfl)))) (.inl rfl)
  exact absurd hmodel (by decide +kernel)

/-! ## Setting what is listed -/

/-- What the tables of Codex are relied on for: there is a collaboration preset of each kind,
every approval preset has a permission profile of its own, and efforts and tiers are read back
as they were written. -/
structure CodexTables (codex : Codex) : Prop where
  modes : ∀ kind, ∃ mask ∈ codex.collaborationPresets, mask.mode = some kind
  profiles : ∀ preset ∈ codex.approvalPresets,
    (activeProfileIdForSessionMode preset.id).isSome = true
  efforts : ∀ effort, reasoningEffortIsHighOrHigher effort = true →
    codex.parseEffort (codex.effortDisplay effort) = some effort
  tiers : ∀ tier, codex.serviceTierFromRequestValue (codex.serviceTierRequestValue tier) = some tier

/-- Every op is accepted, and every write of the configuration succeeds. -/
structure WritesSucceed (codex : Codex) (a : ThreadActor) : Prop where
  submit : ∀ n op, (codex.submit n op).isOk = true
  editServiceTier : ∀ n value, codex.editServiceTier n value = .ok ()
  setProjectTrustLevel : ∀ n, codex.setProjectTrustLevel n = .ok ()
  /-- Both constraints accept every preset, and hold what they accept as it was given. -/
  policy : ∀ preset ∈ codex.approvalPresets, policyAccepted a preset = true
  policyStored : a.config.permissions.approvalPolicy.StoresAccepted
  profile : ∀ preset ∈ codex.approvalPresets, profileAccepted a preset = true
  profileStored : a.config.permissions.sessionSnapshot.StoresAccepted

/-- No two presets share an id or a model, and a configured model is the one in use. -/
structure DistinctPresets (manager : ModelsManager) : Prop where
  ids : (manager.listModels.map (·.id)).Nodup
  models : (manager.listModels.map (·.model)).Nodup
  echo : EchoesModel manager

/-- The option is set to the value, and the value is its current one afterwards. -/
def SetsTo (codex : Codex) (a : ThreadActor) (configId : SessionConfigId) (value : String) : Prop :=
  ∃ b, handleSetConfigOption codex configId (.valueId value) a = (.ok (), b) ∧
    ∃ option ∈ b.configOptions codex, option.id = configId ∧ option.currentValue = value

/-- Every value listed can be set, and is the current one afterwards. -/
def OptionsAgree (codex : Codex) (a : ThreadActor) : Prop :=
  ∀ option ∈ a.configOptions codex, ∀ value ∈ option.options.map (·.value),
    SetsTo codex a option.id value

/-- The condition: with nothing offered the model in use has a name, and efforts are listed
for a preset of the model in use only. -/
def PickerCovers (a : ThreadActor) : Prop :=
  (a.modelPresets = [] → a.getCurrentModel ≠ "") ∧
    ((∃ p ∈ a.modelPresets, p.model = a.getCurrentModel) ∨
      ∀ p ∈ a.currentPreset, p.supportedReasoningEfforts.length ≤ 1)

instance (a : ThreadActor) : Decidable (PickerCovers a) :=
  inferInstanceAs (Decidable ((_ → _) ∧ (_ ∨ ∀ p ∈ a.currentPreset, _)))

section Settable

variable {codex : Codex} {a : ThreadActor}

/-- An accepted op goes on to the local write. -/
theorem submitOk_accepted (hsubmit : ∀ n op, (codex.submit n op).isOk = true) (op : Op)
    (a : ThreadActor) : ∃ id, submitOk codex op a = (.ok (), a.accept op id) := by
  have hop := hsubmit a.world.calls op
  rw [submitOk_run]
  cases hrun : codex.submit a.world.calls op with
  | ok id => exact ⟨id, rfl⟩
  | error e =>
    rw [hrun] at hop
    cases hop

theorem mode_setsTo (hcodex : CodexTables codex)
    (hsubmit : ∀ n op, (codex.submit n op).isOk = true) (kind : ModeKind) :
    SetsTo codex a "mode" (collaborationModeId kind) := by
  have hmode : handleSetMode codex (collaborationModeId kind) =
      applyCollaborationModeKind codex kind := by
    unfold handleSetMode
    rw [show approvalPresetIdForAgentMode (collaborationModeId kind) = none by
      cases kind <;> decide +kernel]
    cases kind <;> rfl
  obtain ⟨mask, hmask, hkind⟩ := hcodex.modes kind
  obtain ⟨mode, hfound⟩ : ∃ mode, collaborationModeForKind codex kind a.getCurrentModel
      a.config.modelReasoningEffort = some mode := by
    refine Option.isSome_iff_exists.mp ?_
    unfold collaborationModeForKind
    rw [Option.isSome_map, List.find?_isSome]
    exact ⟨mask, hmask, by simp [hkind]⟩
  obtain ⟨opId, haccepted⟩ := submitOk_accepted hsubmit (overrideCollaborationMode mode) a
  refine ⟨(a.accept (overrideCollaborationMode mode) opId).withModeKind kind, ?_, _,
    mem_configOptions.mpr (.inl rfl), rfl, rfl⟩
  have hset : handleSetConfigOption codex "mode" (.valueId (collaborationModeId kind)) =
      handleSetMode codex (collaborationModeId kind) := by
    unfold handleSetConfigOption
    exact if_pos rfl
  rw [hset, hmode]
  unfold applyCollaborationModeKind
  rw [Handler.bind_run, Handler.reads_run]
  dsimp only [id]
  rw [hfound]
  dsimp only
  rw [Handler.bind_run, haccepted]
  rfl

/-- A preset that was made active is the one shown. -/
theorem currentSessionModeId_active {preset : ApprovalPreset} (config : Config)
    (hpreset : preset ∈ codex.approvalPresets)
    (hprofile : (activeProfileIdForSessionMode preset.id).isSome = true)
    (hpolicy : config.permissions.approvalPolicy.value = preset.approval)
    (hactive : config.permissions.activePermissionProfile = presetActiveProfile preset) :
    currentSessionModeId codex config = some preset.id := by
  obtain ⟨profileId, hid⟩ := Option.isSome_iff_exists.mp hprofile
  -- the mode of a profile and the profile of a mode are each other's
  have hmode : sessionModeIdForActiveProfile profileId = some preset.id := by
    unfold activeProfileIdForSessionMode at hid
    split at hid
    next h => rw [h]; cases hid; rfl
    split at hid
    next h => rw [h]; cases hid; rfl
    split at hid
    next h => rw [h]; cases hid; rfl
    · cases hid
  have hmatch : approvalMatchesCurrentConfig preset config = true := by
    unfold approvalMatchesCurrentConfig
    rw [hpolicy, decide_eq_true_eq]
  have hfound : modeIdIfApprovalMatches codex preset.id config = some preset.id := by
    cases hfind : modeIdIfApprovalMatches codex preset.id config with
    | some found => rw [(modeIdIfApprovalMatches_eq hfind).1]
    | none =>
      have hno := List.find?_eq_none.mp (Option.map_eq_none_iff.mp hfind) preset hpreset
      simp [hmatch] at hno
  unfold currentSessionModeId
  rw [hactive]
  unfold presetActiveProfile
  rw [hid]
  simp only [Option.map_some, hmode, Option.bind_some, hfound, Option.some_or]

/-- A preset is set, and its security settings are those in force, when every write succeeds. -/
theorem handleSetApprovalPreset_succeeds (hwrites : WritesSucceed codex a)
    {preset first : ApprovalPreset} (hfirst : first ∈ codex.approvalPresets)
    (hfind : codex.approvalPresets.find? (preset.id = ·.id) = some first) :
    ∃ b, handleSetApprovalPreset codex preset.id a = (.ok (), b) ∧
      b.securitySettings =
        { approvalPolicy := first.approval
          permissionProfile := first.permissionProfile
          activePermissionProfile := presetActiveProfile first } := by
  obtain ⟨opId, haccepted⟩ := submitOk_accepted hwrites.submit (overrideApprovalPreset first) a
  obtain ⟨hok, hconfig, -⟩ := localMoves_run codex first a opId
  have hmoves : movesAccepted codex a first = true := by
    unfold movesAccepted trustWritten
    rw [hwrites.policy first hfirst, hwrites.profile first hfirst,
      hwrites.setProjectTrustLevel]
    simp
  have hrun : handleSetApprovalPreset codex preset.id a =
      localMoves codex first (a.accept (overrideApprovalPreset first) opId) := by
    unfold handleSetApprovalPreset
    rw [hfind]
    dsimp only
    rw [Handler.bind_run, haccepted]
    rfl
  refine ⟨_, hrun.trans (Prod.ext (hok.mpr hmoves) rfl), ?_⟩
  rw [securitySettings_of_config hconfig]
  exact movedBy_security_of_accepted hwrites.policyStored hwrites.profileStored
    (hwrites.policy first hfirst) (hwrites.profile first hfirst)

theorem approvalPreset_setsTo (hcodex : CodexTables codex) (hwrites : WritesSucceed codex a)
    {preset : ApprovalPreset} (hpreset : preset ∈ codex.approvalPresets) :
    SetsTo codex a "approval_preset" preset.id := by
  -- the preset that is set is the first one of that id
  obtain ⟨first, hfind⟩ : ∃ first, codex.approvalPresets.find? (preset.id = ·.id) = some first := by
    refine Option.isSome_iff_exists.mp (List.find?_isSome.mpr ⟨preset, hpreset, ?_⟩)
    simp
  have hfirst := List.mem_of_find?_eq_some hfind
  have hid : preset.id = first.id := by simpa using List.find?_some hfind
  obtain ⟨b, hrun, hsecurity⟩ := handleSetApprovalPreset_succeeds hwrites hfirst hfind
  refine ⟨b, hrun, ?_⟩
  have hshown := currentSessionModeId_active b.config hfirst
    (hcodex.profiles first hfirst) (congrArg SecuritySettings.approvalPolicy hsecurity)
    (congrArg SecuritySettings.activePermissionProfile hsecurity)
  have hoption : b.approvalPresetOption codex = some
      { id := "approval_preset", name := "Approval Preset", currentValue := preset.id
        options := (codex.approvalPresets.map fun preset =>
          { id := preset.id, name := preset.label
            description := some preset.description }).map selectOptionOfMode
        description := some "Choose an approval and sandboxing preset for your session" } := by
    unfold approvalPresetOption approvalPresetConfigOption
    rw [hshown, hid]
    rfl
  exact ⟨_, mem_configOptions.mpr (.inr (.inl hoption)), rfl, rfl⟩

/-- The value of the option that stands for a tier. -/
def tierValue : Option ServiceTier → String
  | none => "default"
  | some .fast => "fast"
  | some .flex => "flex"

theorem currentServiceTierValue_set (hcodex : CodexTables codex) (serviceTier : Option ServiceTier)
    (b : ThreadActor) (hb : b.config.serviceTier = serviceTier.map codex.serviceTierRequestValue) :
    b.currentServiceTierValue codex = tierValue serviceTier := by
  unfold currentServiceTierValue
  rw [hb]
  cases serviceTier with
  | none => rfl
  | some tier =>
    rw [Option.map_some, Option.bind_some, hcodex.tiers]
    cases tier <;> rfl

theorem setServiceTier_succeeds (hwrites : WritesSucceed codex a)
    (serviceTier : Option ServiceTier) :
    let value := serviceTier.map codex.serviceTierRequestValue
    ∃ opId, setServiceTier codex serviceTier a =
      (.ok (), ((a.saved value).accept (overrideServiceTier value) opId).withServiceTier value) := by
  dsimp only
  unfold setServiceTier
  generalize serviceTier.map codex.serviceTierRequestValue = value
  obtain ⟨opId, haccepted⟩ :=
    submitOk_accepted hwrites.submit (overrideServiceTier value) (a.saved value)
  refine ⟨opId, ?_⟩
  rw [Handler.bind_run, editServiceTier_run, hwrites.editServiceTier]
  dsimp only
  rw [Handler.bind_run, haccepted]
  rfl

theorem serviceTier_setsTo (hcodex : CodexTables codex) (hwrites : WritesSucceed codex a)
    (hfast : a.fastModeConfigurable = true) {serviceTier : Option ServiceTier}
    (htier : TierRequest.optionTier (tierValue serviceTier) = some serviceTier) :
    SetsTo codex a "service_tier" (tierValue serviceTier) := by
  have hasks : TierRequest.asks codex a (.configOption (.valueId (tierValue serviceTier))) =
      some serviceTier := by
    unfold TierRequest.asks
    dsimp only
    rw [if_pos hfast, htier]
  have hrun := @handleSetServiceTier_eq codex a (tierValue serviceTier)
  rw [hasks] at hrun
  obtain ⟨opId, hset⟩ := setServiceTier_succeeds hwrites serviceTier
  refine ⟨_, hrun.trans hset, ?_⟩
  generalize hb : ThreadActor.withServiceTier _ _ = b
  have hfast' : b.fastModeConfigurable = true := by rw [← hb]; exact hfast
  have hoption : ∃ option, b.serviceTierOption codex = some option ∧ option.id = "service_tier" ∧
      option.currentValue = b.currentServiceTierValue codex := by
    unfold serviceTierOption
    rw [if_pos hfast']
    exact ⟨_, rfl, rfl, rfl⟩
  obtain ⟨option, hoption, hid, hcurrent⟩ := hoption
  refine ⟨option, mem_configOptions.mpr (.inr (.inr (.inr (.inr hoption)))), hid, ?_⟩
  rw [hcurrent, currentServiceTierValue_set hcodex serviceTier b (by rw [← hb]; rfl)]

/-- A selection is applied when every op is accepted. -/
theorem handleSetConfigModel_succeeds (hsubmit : ∀ n op, (codex.submit n op).isOk = true)
    {value : String} {selection : ModelSelection}
    (hselect : selectConfigModel value a.modelPresets a.config.modelReasoningEffort =
      .ok selection) :
    ∃ op opId, handleSetConfigModel codex value a =
      (.ok (), (a.accept op opId).withSelection selection) := by
  obtain ⟨opId, haccepted⟩ := submitOk_accepted hsubmit (overrideModel (some selection.model)
    (.fromSelectedEffort selection.reasoningEffort)) a
  refine ⟨overrideModel (some selection.model) (.fromSelectedEffort selection.reasoningEffort),
    opId, ?_⟩
  unfold handleSetConfigModel
  rw [Handler.bind_run, Handler.reads_run]
  dsimp only [id]
  rw [Handler.bind_run, hselect, Handler.lift_run]
  dsimp only
  unfold applySelectedModel submitModelOverride
  rw [Handler.bind_run, haccepted]
  rfl

/-- The id of an offered preset selects it. -/
theorem selectConfigModel_offered {presets : List ModelPreset} {current : Option String}
    {p : ModelPreset} (hids : (presets.map (·.id)).Nodup)
    (hp : p ∈ filterModelPresetsForPicker presets current) (effort : Option ReasoningEffort) :
    selectConfigModel p.id (filterModelPresetsForPicker presets current) effort =
      .ok ⟨p.model, some (effectiveReasoningEffort p effort)⟩ := by
  obtain ⟨q, -, hoffered⟩ := mem_offered.mp hp
  unfold selectConfigModel
  rw [find?_key (offered_ids hids current) hp]
  exact if_neg (pickerPreset_model_ne hoffered)

/-- A value that selects a model is shown afterwards, if the lookup for that model shows it. -/
theorem model_setsTo_of_select (hsubmit : ∀ n op, (codex.submit n op).isOk = true)
    (hecho : EchoesModel a.world.models) {value : String} {selection : ModelSelection}
    (hselect : selectConfigModel value a.modelPresets a.config.modelReasoningEffort =
      .ok selection)
    (hshown : ((resolveModelPreset
        (filterModelPresetsForPicker a.world.models.listModels (some selection.model))
        (some selection.model)).map (·.id)).getD selection.model = value) :
    SetsTo codex a "model" value := by
  obtain ⟨op, opId, hrun⟩ := handleSetConfigModel_succeeds hsubmit hselect
  refine ⟨_, hrun, _, mem_configOptions.mpr (.inr (.inr (.inl rfl))), rfl, ?_⟩
  rw [modelOption_currentValue]
  unfold currentPreset
  rw [withSelection_inUse hecho, withSelection_presets hecho]
  exact hshown

/-- An offered preset can be set by its id. -/
theorem offeredModel_setsTo (hwrites : WritesSucceed codex a)
    (hpresets : DistinctPresets a.world.models) {p : ModelPreset} (hp : p ∈ a.modelPresets) :
    SetsTo codex a "model" p.id := by
  refine model_setsTo_of_select hwrites.submit hpresets.echo
    (selectConfigModel_offered hpresets.ids hp _) ?_
  rw [resolveModelPreset_offered hpresets.models hp]
  rfl

/-- With nothing offered, the model in use can be set unless it has no name. -/
theorem unofferedModel_setsTo_iff (hwrites : WritesSucceed codex a)
    (hpresets : DistinctPresets a.world.models) (hempty : a.modelPresets = []) :
    SetsTo codex a "model" a.getCurrentModel ↔ a.getCurrentModel ≠ "" := by
  constructor
  · rintro ⟨b, hrun, -⟩ hname
    obtain ⟨selection, _, _, hselect, -⟩ := handleSetConfigModel_ok hrun
    rw [hempty, hname] at hselect
    cases hselect
  · intro hname
    have hselect : selectConfigModel a.getCurrentModel a.modelPresets
        a.config.modelReasoningEffort =
          .ok ⟨a.getCurrentModel, a.config.modelReasoningEffort⟩ := by
      rw [hempty]
      exact if_neg hname
    refine model_setsTo_of_select hwrites.submit hpresets.echo hselect ?_
    rw [show filterModelPresetsForPicker _ (some a.getCurrentModel) = [] from hempty]
    rfl

/-- The value of an offered preset, or of the model in use with nothing offered, can be set
and is the current one afterwards, unless it is empty. -/
theorem model_setsTo_iff (hwrites : WritesSucceed codex a)
    (hpresets : DistinctPresets a.world.models) {value : String}
    (hvalue : value ∈ a.modelOption.options.map (·.value)) :
    SetsTo codex a "model" value ↔ (a.modelPresets = [] → a.getCurrentModel ≠ "") := by
  cases hp : a.currentPreset with
  | none =>
    have hempty : a.modelPresets = [] := resolveModelPreset_eq_none.mp hp
    obtain rfl : value = a.getCurrentModel := by
      unfold modelOption at hvalue
      rw [hp, hempty] at hvalue
      simpa using hvalue
    exact (unofferedModel_setsTo_iff hwrites hpresets hempty).trans
      ⟨fun hname _ => hname, fun hname => hname hempty⟩
  | some current =>
    have hnonempty : a.modelPresets ≠ [] := by
      intro hempty
      have hmem : current ∈ a.modelPresets := resolveModelPreset_mem hp
      rw [hempty] at hmem
      cases hmem
    obtain ⟨p, hmem, rfl⟩ : ∃ p ∈ a.modelPresets, p.id = value := by
      unfold modelOption at hvalue
      rw [hp] at hvalue
      simp only [Option.isNone_some, Bool.false_and, Bool.false_eq_true, if_false,
        List.nil_append, List.map_map] at hvalue
      obtain ⟨p, hshown, hid⟩ := List.mem_map.mp hvalue
      exact ⟨p, (List.mem_filter.mp hshown).1, hid⟩
    exact iff_of_true (offeredModel_setsTo hwrites hpresets hmem)
      fun hempty => absurd hempty hnonempty

/-- The efforts of an offered preset are high ones. -/
theorem offered_effort_high {presets : List ModelPreset} {current : Option String} {p : ModelPreset}
    (hp : p ∈ filterModelPresetsForPicker presets current) :
    ∀ e ∈ p.supportedReasoningEfforts, reasoningEffortIsHighOrHigher e.effort = true := by
  obtain ⟨q, -, hoffered⟩ := mem_offered.mp hp
  unfold pickerPreset at hoffered
  dsimp only at hoffered
  split at hoffered
  · cases hoffered
  split at hoffered
  · cases hoffered
  next first others hhigh =>
    cases hoffered
    intro e he
    rw [← hhigh] at he
    exact (List.mem_filter.mp he).2

/-- An effort is only set for a preset of the model in use. -/
theorem handleSetConfigReasoningEffort_known {value : String} {b : ThreadActor}
    (h : handleSetConfigReasoningEffort codex value a = (.ok (), b)) :
    ∃ p ∈ a.modelPresets, p.model = a.getCurrentModel := by
  unfold handleSetConfigReasoningEffort at h
  cases hparse : codex.parseEffort value with
  | none =>
    rw [hparse] at h
    cases h
  | some effort =>
    rw [hparse] at h
    dsimp only at h
    rw [Handler.bind_run, Handler.reads_run] at h
    dsimp only [id] at h
    cases hfind : a.modelPresets.find? (·.model = a.getCurrentModel) with
    | none =>
      rw [hfind] at h
      cases h
    | some p =>
      exact ⟨p, List.mem_of_find?_eq_some hfind, by simpa using List.find?_some hfind⟩

/-- Of that preset, every effort it supports is set. -/
theorem handleSetConfigReasoningEffort_succeeds
    (hsubmit : ∀ n op, (codex.submit n op).isOk = true) {value : String}
    {effort : ReasoningEffort} {p : ModelPreset} (hparse : codex.parseEffort value = some effort)
    (hfind : a.modelPresets.find? (·.model = a.getCurrentModel) = some p)
    (hsupports : supportsReasoningEffort p effort = true) :
    ∃ opId,
      let b : ThreadActor := a.accept (overrideModel none (.set effort)) opId
      handleSetConfigReasoningEffort codex value a =
        (.ok (), { b with config := { b.config with modelReasoningEffort := some effort } }) := by
  obtain ⟨opId, haccepted⟩ := submitOk_accepted hsubmit (overrideModel none (.set effort)) a
  refine ⟨opId, ?_⟩
  unfold handleSetConfigReasoningEffort
  rw [hparse]
  dsimp only
  rw [Handler.bind_run, Handler.reads_run]
  dsimp only [id]
  rw [hfind]
  dsimp only
  rw [if_neg (by simp [hsupports])]
  unfold submitModelOverride
  rw [Handler.bind_run, haccepted]
  rfl

/-- A listed effort can be set, and is the current one afterwards, exactly when a preset of the
model in use is offered. -/
theorem reasoningEffort_setsTo_iff (hcodex : CodexTables codex) (hwrites : WritesSucceed codex a)
    (hpresets : DistinctPresets a.world.models) {p : ModelPreset} (hp : a.currentPreset = some p)
    (hseveral : 1 < p.supportedReasoningEfforts.length) {e : SupportedReasoningEffort}
    (he : e ∈ p.supportedReasoningEfforts) :
    SetsTo codex a "reasoning_effort" (codex.effortDisplay e.effort) ↔
      ∃ q ∈ a.modelPresets, q.model = a.getCurrentModel := by
  have hmem : p ∈ a.modelPresets := resolveModelPreset_mem hp
  refine ⟨fun ⟨b, hrun, _⟩ => handleSetConfigReasoningEffort_known hrun, fun hoffered => ?_⟩
  have hparse := hcodex.efforts e.effort (offered_effort_high hmem e he)
  have hmodel := (resolveModelPreset_model_iff (offered_models hpresets.models _) hp).mpr hoffered
  have hfind : a.modelPresets.find? (·.model = a.getCurrentModel) = some p := by
    rw [← hmodel]
    exact find?_key (offered_models hpresets.models _) hmem
  have hsupports : supportsReasoningEffort p e.effort = true :=
    List.any_eq_true.mpr ⟨e, he, decide_eq_true rfl⟩
  obtain ⟨opId, hrun⟩ :=
    handleSetConfigReasoningEffort_succeeds hwrites.submit hparse hfind hsupports
  refine ⟨_, hrun, _, mem_configOptions.mpr (.inr (.inr (.inr (.inl
    (mem_reasoningEffortOption.mpr ⟨p, hp, hseveral, rfl⟩))))), rfl, ?_⟩
  dsimp only
  unfold effectiveReasoningEffort
  rw [Option.filter_some_pos hsupports]
  rfl

/-- Where the options agree, so do the lookups they rest on. -/
theorem pickerCovers_of_optionsAgree (hcodex : CodexTables codex)
    (hwrites : WritesSucceed codex a) (hpresets : DistinctPresets a.world.models)
    (hagree : OptionsAgree codex a) : PickerCovers a := by
  refine ⟨fun hempty => ?_, ?_⟩
  · have hnone : a.currentPreset = none := resolveModelPreset_eq_none.mpr hempty
    -- with nothing offered, the model in use is the one value of the option
    have hvalue : a.getCurrentModel ∈ a.modelOption.options.map (·.value) := by
      unfold modelOption
      rw [hnone, hempty]
      simp
    have hsets := hagree a.modelOption (mem_configOptions.mpr (.inr (.inr (.inl rfl)))) _ hvalue
    exact (model_setsTo_iff hwrites hpresets hvalue).mp hsets hempty
  · cases hp : a.currentPreset with
    | none => exact .inr nofun
    | some p =>
      by_cases hseveral : 1 < p.supportedReasoningEfforts.length
      · obtain ⟨e, he⟩ := List.exists_mem_of_length_pos (Nat.zero_lt_of_lt hseveral)
        have hsets := hagree _ (mem_configOptions.mpr (.inr (.inr (.inr (.inl
          (mem_reasoningEffortOption.mpr ⟨p, hp, hseveral, rfl⟩))))))
          (codex.effortDisplay e.effort)
          (List.mem_map.mpr ⟨_, List.mem_map_of_mem he, rfl⟩)
        exact .inl ((reasoningEffort_setsTo_iff hcodex hwrites hpresets hp hseveral he).mp hsets)
      · refine .inr fun q hq => ?_
        cases hq
        exact Nat.le_of_not_lt hseveral

/-- What is listed can be set and is then the current value, in a state with distinct presets
whose writes succeed, exactly under the condition. -/
theorem optionsAgree_iff (hcodex : CodexTables codex) (hwrites : WritesSucceed codex a)
    (hpresets : DistinctPresets a.world.models) : OptionsAgree codex a ↔ PickerCovers a := by
  constructor
  · exact pickerCovers_of_optionsAgree hcodex hwrites hpresets
  · rintro ⟨hnamed, hefforts⟩ option hoption value hvalue
    rcases mem_configOptions.mp hoption with rfl | hmem | rfl | hmem | hmem
    · obtain rfl | rfl : value = "default" ∨ value = "plan" := by
        unfold modeOption modes at hvalue
        simpa [selectOptionOfMode, collaborationModeId] using hvalue
      · exact mode_setsTo hcodex hwrites.submit .default
      · exact mode_setsTo hcodex hwrites.submit .plan
    · rw [approvalPresetOption_id hmem]
      obtain ⟨preset, hpreset, rfl⟩ : ∃ preset ∈ codex.approvalPresets, preset.id = value := by
        obtain ⟨shown, hshown, rfl⟩ := Option.map_eq_some_iff.mp hmem
        obtain ⟨_, -, rfl⟩ := Option.map_eq_some_iff.mp hshown
        simpa [selectOptionOfMode] using hvalue
      exact approvalPreset_setsTo hcodex hwrites hpreset
    · exact (model_setsTo_iff hwrites hpresets hvalue).mpr hnamed
    · obtain ⟨p, hp, hseveral, rfl⟩ := mem_reasoningEffortOption.mp hmem
      obtain ⟨e, he, rfl⟩ : ∃ e ∈ p.supportedReasoningEfforts,
          codex.effortDisplay e.effort = value := by
        simpa using hvalue
      refine (reasoningEffort_setsTo_iff hcodex hwrites hpresets hp hseveral he).mpr ?_
      exact hefforts.resolve_right fun h => absurd (h p hp) (Nat.not_le_of_lt hseveral)
    · rw [serviceTierOption_id hmem]
      unfold serviceTierOption at hmem
      split at hmem
      next hfast =>
        cases hmem
        obtain rfl | rfl | rfl : value = "default" ∨ value = "fast" ∨ value = "flex" := by
          simpa using hvalue
        · exact @serviceTier_setsTo codex a hcodex hwrites hfast none rfl
        · exact @serviceTier_setsTo codex a hcodex hwrites hfast (some .fast) rfl
        · exact @serviceTier_setsTo codex a hcodex hwrites hfast (some .flex) rfl
      · cases hmem

/-- **Listed, settable, current.** From every initial configuration, throughout every run: with
distinct presets and writes that succeed, every value listed can be set and is then the current
one, exactly when the efforts listed are those of the model in use. -/
theorem options_agree_iff (hcodex : CodexTables codex) (config : Config) (models : ModelsManager)
    (labels : List Label) :
    Throughout (Running.step codex)
        (fun r => WritesSucceed codex r.actor → DistinctPresets r.actor.world.models →
          OptionsAgree codex r.actor) (.start config models) labels ↔
      Throughout (Running.step codex)
        (fun r => WritesSucceed codex r.actor → DistinctPresets r.actor.world.models →
          PickerCovers r.actor) (.start config models) labels := by
  refine throughout_congr (fun r => ?_) _ _
  exact forall_congr' fun hwrites => forall_congr' fun hpresets =>
    optionsAgree_iff hcodex hwrites hpresets

end Settable

/-! ### A model that is not offered -/

/-- An environment that reads every high effort back. -/
def Codex.readingEfforts : Codex :=
  { Codex.sample with
    parseEffort := fun value =>
      [ReasoningEffort.high, .xhigh, .max, .ultra].find? (Codex.sample.effortDisplay · = value) }

theorem codexTables_readingEfforts : CodexTables Codex.readingEfforts where
  modes kind := by cases kind <;> decide
  profiles := by decide
  efforts effort h := by
    cases effort with
    | high | xhigh | max | ultra => decide +kernel
    | _ => cases h
  tiers tier := by cases tier <;> decide

theorem distinctPresets_sample : DistinctPresets ModelsManager.sample :=
  ⟨by decide, by decide, fun _ => rfl⟩

/-- The effort of the default model is changed, and the options agree throughout. -/
theorem options_agree_iff_effort :
    Throughout (Running.step Codex.readingEfforts)
      (fun r => WritesSucceed Codex.readingEfforts r.actor →
        DistinctPresets r.actor.world.models → OptionsAgree Codex.readingEfforts r.actor)
      (.start Config.sample ModelsManager.sample)
      [.message (.setConfigOption "reasoning_effort" (.valueId "xhigh")), .collect] := by
  refine (options_agree_iff codexTables_readingEfforts _ _ _).mpr ?_
  have hcovers : Throughout (Running.step Codex.readingEfforts) (fun r => PickerCovers r.actor)
      (.start Config.sample ModelsManager.sample)
      [.message (.setConfigOption "reasoning_effort" (.valueId "xhigh")), .collect] := by
    decide +kernel
  exact ⟨fun _ _ => hcovers.1, along_mono (fun _ _ _ _ h _ _ => h) hcovers.2⟩

/-- **Efforts that cannot be set.** Once a custom model is set, the efforts of the default preset
are listed, and none of them can be set. -/
theorem customModel_efforts :
    ∃ r, exec (Running.step Codex.readingEfforts) (.start Config.sample ModelsManager.sample)
        [.message (.setConfigOption "model" (.valueId "custom-model"))] = some r ∧
      WritesSucceed Codex.readingEfforts r.actor ∧ DistinctPresets r.actor.world.models ∧
      (∃ option ∈ r.actor.configOptions Codex.readingEfforts, option.id = "reasoning_effort" ∧
        option.options.map (·.value) = ["high", "xhigh"]) ∧
      ¬ OptionsAgree Codex.readingEfforts r.actor := by
  have hlisted : ∃ option ∈ ((Running.start Config.sample ModelsManager.sample).actor.handleMessage
      Codex.readingEfforts (.setConfigOption "model" (.valueId "custom-model"))).configOptions
        Codex.readingEfforts, option.id = "reasoning_effort" ∧
      option.options.map (·.value) = ["high", "xhigh"] := by
    decide +kernel
  refine ⟨_, rfl, ⟨fun _ _ => rfl, fun _ _ => rfl, fun _ => rfl, fun _ _ => rfl,
      Constrained.free_storesAccepted _, fun _ _ => rfl, Constrained.free_storesAccepted _⟩,
    distinctPresets_sample, hlisted, fun h => ?_⟩
  obtain ⟨option, hoption, hid, hvalues⟩ := hlisted
  obtain ⟨b, hrun, -⟩ := h option hoption "high" (by rw [hvalues]; decide)
  rw [hid] at hrun
  cases hrun

end CodexAcp.Thread
