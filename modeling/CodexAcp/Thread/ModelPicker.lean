import CodexAcp.Thread.SettingsFrame

/-!
# The model in use, and the models offered

The picker's list depends on the model in use: a hidden preset is offered while it
is in use. The list is looked up in three ways: by id when a model is chosen, by
model with two fallbacks when the options are shown and when a session is loaded,
and by model alone when an effort is chosen.

> `resolveModelPreset_offered`: a model that was offered is offered under itself as
> the model in use, and then all lookups agree on its preset.
> `ensureCurrentModelSelection_twice`: normalising the model in use again changes
> nothing and submits nothing.
> `chosenModel_lasts_iff`: a model that was chosen is the one shown, and a load keeps
> it without an override, exactly when it is an offered preset's id, or its name with
> the effort in effect, or nothing is offered at all.
-/

namespace CodexAcp.Thread

open CodexAcp.Lib CodexAcp.Protocol CodexAcp.Boundary ThreadActor

/-- In a list without two elements of one key, an element is found by its key. -/
theorem find?_key {α β : Type} [DecidableEq β] {key : α → β} {l : List α}
    (hl : (l.map key).Nodup) {a : α} (ha : a ∈ l) :
    l.find? (fun b => key b = key a) = some a := by
  cases hfind : l.find? (fun b => key b = key a) with
  | none =>
    have hno := List.find?_eq_none.mp hfind a ha
    simp at hno
  | some b =>
    have hkey : key b = key a := by simpa using List.find?_some hfind
    rw [List.inj_on_of_nodup_map hl (List.mem_of_find?_eq_some hfind) ha hkey]

/-! ## The presets offered -/

section Picker

variable {presets : List ModelPreset} {current : Option String} {p q : ModelPreset}

/-- A preset that is offered is the listed one up to its efforts. -/
theorem pickerPreset_eq (h : pickerPreset current q = some p) :
    p = { q with
      supportedReasoningEfforts := p.supportedReasoningEfforts
      defaultReasoningEffort := p.defaultReasoningEffort } := by
  unfold pickerPreset at h
  dsimp only at h
  split at h
  · cases h
  split at h
  · cases h
  · cases h
    rfl

/-- A preset that is offered is offered as the one in use, too. -/
theorem pickerPreset_inUse (h : pickerPreset current q = some p) :
    pickerPreset (some p.model) q = some p := by
  have hmodel : p.model = q.model := by rw [pickerPreset_eq h]
  rw [hmodel]
  unfold pickerPreset at h ⊢
  dsimp only at h ⊢
  split at h
  · cases h
  next hshown =>
    have hrecent : modelIsGpt53OrNewer q.model = true := by
      simp only [Bool.or_eq_true, Bool.not_eq_true', not_or] at hshown
      simpa using hshown.1
    rw [if_neg (by simp [hrecent])]
    exact h

/-- Only presets of a recent model are offered, so none of them has an empty name. -/
theorem pickerPreset_model_ne (h : pickerPreset current q = some p) : p.model ≠ "" := by
  have hmodel : p.model = q.model := by rw [pickerPreset_eq h]
  rw [hmodel]
  rintro hempty
  unfold pickerPreset at h
  rw [hempty, show modelIsGpt53OrNewer "" = false by decide] at h
  cases h

theorem mem_offered {p : ModelPreset} :
    p ∈ filterModelPresetsForPicker presets current ↔
      ∃ q ∈ presets, pickerPreset current q = some p :=
  List.mem_filterMap

/-- A key that the picker leaves alone is as distinct among the presets offered. -/
theorem offered_sublist {β : Type} (key : ModelPreset → β)
    (hkey : ∀ current q p, pickerPreset current q = some p → key p = key q)
    (presets : List ModelPreset) (current : Option String) :
    ((filterModelPresetsForPicker presets current).map key).Sublist (presets.map key) := by
  unfold filterModelPresetsForPicker
  induction presets with
  | nil => exact List.Sublist.slnil
  | cons q presets ih =>
    cases hq : pickerPreset current q with
    | none =>
      rw [List.filterMap_cons_none hq]
      exact ih.cons _
    | some p =>
      rw [List.filterMap_cons_some hq, List.map_cons, List.map_cons, hkey current q p hq]
      exact ih.cons_cons _

theorem offered_ids (h : (presets.map (·.id)).Nodup) (current : Option String) :
    ((filterModelPresetsForPicker presets current).map (·.id)).Nodup :=
  h.sublist (offered_sublist _ (fun _ _ _ hp => by rw [pickerPreset_eq hp]) _ _)

theorem offered_models (h : (presets.map (·.model)).Nodup) (current : Option String) :
    ((filterModelPresetsForPicker presets current).map (·.model)).Nodup :=
  h.sublist (offered_sublist _ (fun _ _ _ hp => by rw [pickerPreset_eq hp]) _ _)

/-- Once a preset that was offered is in use, it is offered. -/
theorem offered_inUse (h : p ∈ filterModelPresetsForPicker presets current) :
    p ∈ filterModelPresetsForPicker presets (some p.model) := by
  obtain ⟨q, hq, hp⟩ := mem_offered.mp h
  exact mem_offered.mpr ⟨q, hq, pickerPreset_inUse hp⟩

end Picker

/-! ## The preset in use -/

section Resolve

variable {presets : List ModelPreset} {model : String} {p : ModelPreset}

theorem resolveModelPreset_mem {current : Option String}
    (h : resolveModelPreset presets current = some p) : p ∈ presets := by
  unfold resolveModelPreset at h
  rcases Option.or_eq_some_iff.mp h with h | ⟨-, h⟩
  · rcases Option.or_eq_some_iff.mp h with h | ⟨-, h⟩
    · obtain ⟨model, -, h⟩ := Option.bind_eq_some_iff.mp h
      exact List.mem_of_find?_eq_some h
    · exact List.mem_of_find?_eq_some h
  · exact List.mem_of_mem_head? h

/-- With anything to choose from, some preset is in use. -/
theorem resolveModelPreset_eq_none {current : Option String} :
    resolveModelPreset presets current = none ↔ presets = [] := by
  constructor
  · intro h
    have hhead := (Option.or_eq_none_iff.mp h).2
    exact List.head?_eq_none_iff.mp hhead
  · rintro rfl
    cases current <;> rfl

/-- The preset of the model in use, where there is one. -/
theorem resolveModelPreset_own (h : (presets.map (·.model)).Nodup) (hp : p ∈ presets) :
    resolveModelPreset presets (some p.model) = some p := by
  unfold resolveModelPreset
  rw [Option.bind_some, find?_key h hp]
  rfl

/-- The preset in use has the model in use, if any preset has. -/
theorem resolveModelPreset_model_iff (h : (presets.map (·.model)).Nodup)
    (hp : resolveModelPreset presets (some model) = some p) :
    p.model = model ↔ ∃ q ∈ presets, q.model = model := by
  constructor
  · exact fun hmodel => ⟨p, resolveModelPreset_mem hp, hmodel⟩
  · rintro ⟨q, hq, rfl⟩
    rw [resolveModelPreset_own h hq] at hp
    cases hp
    rfl

/-- **Offered under itself.** Once a preset that was offered is in use, it is the one found
for the model in use. -/
theorem resolveModelPreset_offered {current : Option String}
    (h : (presets.map (·.model)).Nodup)
    (hp : p ∈ filterModelPresetsForPicker presets current) :
    resolveModelPreset (filterModelPresetsForPicker presets (some p.model)) (some p.model) =
      some p :=
  resolveModelPreset_own (offered_models h _) (offered_inUse hp)

end Resolve

/-! ## Efforts -/

/-- The effort in effect under a preset stays in effect. -/
theorem effectiveReasoningEffort_twice (p : ModelPreset) (effort : Option ReasoningEffort) :
    effectiveReasoningEffort p (some (effectiveReasoningEffort p effort)) =
      effectiveReasoningEffort p effort := by
  unfold effectiveReasoningEffort
  cases hsupported : effort.filter (supportsReasoningEffort p) with
  | none =>
    -- the default effort is in effect, supported or not
    rw [Option.getD_none]
    cases hdefault : supportsReasoningEffort p p.defaultReasoningEffort <;>
      simp [Option.filter, hdefault]
  | some e =>
    rw [Option.getD_some, Option.filter_some_pos (Option.filter_eq_some_iff.mp hsupported).2]
    rfl

/-- The model in use needs no normalising when nothing is offered, or its preset is, with an
effort that is in effect. -/
theorem normalizedCurrentModelSelection_eq_none {presets : List ModelPreset}
    (h : (presets.map (·.model)).Nodup) (model : String) (effort : Option ReasoningEffort) :
    normalizedCurrentModelSelection model presets effort = none ↔
      presets = [] ∨ ∃ p ∈ presets, p.model = model ∧
        effort = some (effectiveReasoningEffort p effort) := by
  unfold normalizedCurrentModelSelection
  cases hresolve : resolveModelPreset presets (some model) with
  | none => simp [resolveModelPreset_eq_none.mp hresolve]
  | some p =>
    have hp := resolveModelPreset_mem hresolve
    dsimp only
    rw [ite_eq_left_iff]
    simp only [Bool.and_eq_true, decide_eq_true_eq, reduceCtorEq, imp_false, not_not]
    constructor
    · rintro ⟨hmodel, heffort⟩
      exact .inr ⟨p, hp, hmodel, heffort⟩
    · rintro (rfl | ⟨q, hq, rfl, heffort⟩)
      · cases hp
      · rw [resolveModelPreset_own h hq] at hresolve
        cases hresolve
        exact ⟨rfl, heffort⟩

/-! ## Choosing and loading -/

/-- A configured model is the one in use. -/
def EchoesModel (models : ModelsManager) : Prop :=
  ∀ model, models.getModel (some model) = model

namespace ThreadActor

/-- The actor with a model and an effort configured. -/
def withSelection (selection : ModelSelection) (a : ThreadActor) : ThreadActor :=
  { a with config :=
    { a.config with
      model := some selection.model
      modelReasoningEffort := selection.reasoningEffort } }

end ThreadActor

section Handlers

variable {codex : Codex} {a b : ThreadActor} {selection : ModelSelection}

theorem applySelectedModel_run (codex : Codex) (selection : ModelSelection) (a : ThreadActor) :
    let op := overrideModel (some selection.model)
      (.fromSelectedEffort selection.reasoningEffort)
    applySelectedModel codex selection a =
      match codex.submit a.world.calls op with
      | .ok id => (.ok (), (a.accept op id).withSelection selection)
      | .error e => (.error (Error.fromAnyhow e), a.called) := by
  dsimp only
  unfold applySelectedModel submitModelOverride
  rw [Handler.bind_run, submitOk_run]
  cases codex.submit a.world.calls (overrideModel (some selection.model)
    (.fromSelectedEffort selection.reasoningEffort)) <;> rfl

/-- A selection that was applied is configured. -/
theorem applySelectedModel_ok (h : applySelectedModel codex selection a = (.ok (), b)) :
    ∃ op id, b = (a.accept op id).withSelection selection := by
  rw [applySelectedModel_run] at h
  cases hsubmit : codex.submit a.world.calls (overrideModel (some selection.model)
    (.fromSelectedEffort selection.reasoningEffort)) with
  | ok id =>
    rw [hsubmit] at h
    cases h
    exact ⟨_, id, rfl⟩
  | error e =>
    rw [hsubmit] at h
    cases h

/-- Applying a selection is a call, accepted or refused. -/
theorem applySelectedModel_calls (codex : Codex) (selection : ModelSelection) (a : ThreadActor) :
    (applySelectedModel codex selection a).2.world.calls = a.world.calls + 1 := by
  rw [applySelectedModel_run]
  split <;> rfl

/-- With a selection applied, its model is in use. -/
theorem withSelection_inUse (hecho : EchoesModel a.world.models) (op : Op) (id : String) :
    ((a.accept op id).withSelection selection).getCurrentModel = selection.model :=
  hecho selection.model

theorem withSelection_presets (hecho : EchoesModel a.world.models) (op : Op) (id : String) :
    ((a.accept op id).withSelection selection).modelPresets =
      filterModelPresetsForPicker a.world.models.listModels (some selection.model) := by
  unfold modelPresets
  rw [withSelection_inUse hecho]
  rfl

/-- What a load finds to normalise. -/
def ThreadActor.normalization (a : ThreadActor) : Option ModelSelection :=
  normalizedCurrentModelSelection a.getCurrentModel a.modelPresets a.config.modelReasoningEffort

theorem ensureCurrentModelSelection_run (codex : Codex) (a : ThreadActor) :
    ensureCurrentModelSelection codex a =
      match a.normalization with
      | none => (.ok (), a)
      | some selection => applySelectedModel codex selection a := by
  unfold ensureCurrentModelSelection normalization
  rw [Handler.bind_run, Handler.reads_run]
  dsimp only [id]
  cases normalizedCurrentModelSelection a.getCurrentModel a.modelPresets
    a.config.modelReasoningEffort <;> rfl

/-- The model of a preset that was offered, configured with an effort that is in effect, needs
no normalising. -/
theorem normalization_withSelection {p : ModelPreset} {effort : Option ReasoningEffort}
    (hmodels : (a.world.models.listModels.map (·.model)).Nodup)
    (hecho : EchoesModel a.world.models) (hp : p ∈ a.modelPresets) (op : Op) (id : String) :
    ((a.accept op id).withSelection
      ⟨p.model, some (effectiveReasoningEffort p effort)⟩).normalization = none := by
  unfold normalization
  rw [withSelection_inUse hecho, withSelection_presets hecho]
  refine (normalizedCurrentModelSelection_eq_none (offered_models hmodels _) _ _).mpr (.inr ?_)
  refine ⟨p, offered_inUse hp, rfl, ?_⟩
  exact congrArg some (effectiveReasoningEffort_twice p effort).symm

/-- **Normalising twice.** Once the model in use was normalised, normalising it again does
nothing: no op is submitted, and nothing is configured. -/
theorem ensureCurrentModelSelection_twice (codex : Codex) {a b : ThreadActor}
    (hmodels : (a.world.models.listModels.map (·.model)).Nodup)
    (hecho : EchoesModel a.world.models)
    (h : ensureCurrentModelSelection codex a = (.ok (), b)) :
    ensureCurrentModelSelection codex b = (.ok (), b) := by
  rw [ensureCurrentModelSelection_run] at h
  cases hnormal : a.normalization with
  | none =>
    rw [hnormal] at h
    cases h
    rw [ensureCurrentModelSelection_run, hnormal]
  | some selection =>
    rw [hnormal] at h
    obtain ⟨op, id, rfl⟩ := applySelectedModel_ok h
    -- the selection is a preset that was offered, with an effort that is in effect
    obtain ⟨p, hp, rfl⟩ : ∃ p ∈ a.modelPresets, selection =
        ⟨p.model, some (effectiveReasoningEffort p a.config.modelReasoningEffort)⟩ := by
      unfold normalization normalizedCurrentModelSelection at hnormal
      cases hresolve : resolveModelPreset a.modelPresets (some a.getCurrentModel) with
      | none =>
        rw [hresolve] at hnormal
        cases hnormal
      | some p =>
        rw [hresolve] at hnormal
        dsimp only at hnormal
        split at hnormal <;> cases hnormal
        exact ⟨p, resolveModelPreset_mem hresolve, rfl⟩
    rw [ensureCurrentModelSelection_run, normalization_withSelection hmodels hecho hp]

end Handlers

/-- A session whose configured model is not offered any more. -/
def ThreadActor.outdated : ThreadActor :=
  { config := { Config.sample with model := some "gpt-5", modelReasoningEffort := none }
    world := { models := ModelsManager.sample } }

/-- It is put on the default model, once. -/
theorem ensureCurrentModelSelection_twice_outdated :
    let b := (ensureCurrentModelSelection Codex.sample ThreadActor.outdated).2
    b.config.model = some "gpt-5.5" ∧
      ensureCurrentModelSelection Codex.sample b = (.ok (), b) := by
  refine ⟨by decide +kernel, ?_⟩
  refine ensureCurrentModelSelection_twice Codex.sample (a := .outdated) (by decide) (fun _ => rfl) ?_
  exact Prod.ext rfl rfl

/-! ## A chosen model -/

/-- A value of the model option stands for a model: it is its name, or its preset's id. -/
def StandsFor (presets : List ModelPreset) (value model : String) : Prop :=
  value = model ∨ ∃ p ∈ presets, p.id = value ∧ p.model = model

/-- What was chosen is shown as the model in use, and a load leaves the configured model
alone without a call. -/
structure ChoiceLasts (codex : Codex) (value : String) (a : ThreadActor) : Prop where
  shown : StandsFor a.world.models.listModels a.modelOption.currentValue value
  configured : (handleLoad codex a).2.config.model = a.config.model
  calls : (handleLoad codex a).2.world.calls = a.world.calls

/-- The condition, told from the state the choice is made in: the value is the id of a preset
that is offered, or nothing is offered with it in use, or it names a model that is, with the
effort that is in effect. -/
def ChoosesOffered (a : ThreadActor) (value : String) : Prop :=
  let presets := filterModelPresetsForPicker a.world.models.listModels (some value)
  (∃ p ∈ a.modelPresets, p.id = value) ∨ presets = [] ∨
    ∃ p ∈ presets, p.model = value ∧
      a.config.modelReasoningEffort =
        some (effectiveReasoningEffort p a.config.modelReasoningEffort)

section Choice

variable {codex : Codex} {a b : ThreadActor} {value : String}

/-- What a value selects: an offered preset by its id, else the model of that name. -/
theorem selectConfigModel_cases {selection : ModelSelection} {presets : List ModelPreset}
    {effort : Option ReasoningEffort} (h : selectConfigModel value presets effort = .ok selection) :
    (∃ p ∈ presets, p.id = value ∧
        selection = ⟨p.model, some (effectiveReasoningEffort p effort)⟩) ∨
      (∀ p ∈ presets, p.id ≠ value) ∧ selection = ⟨value, effort⟩ := by
  unfold selectConfigModel at h
  cases hfind : presets.find? (·.id = value) with
  | none =>
    rw [hfind] at h
    refine .inr ⟨fun p hp hid => ?_, ?_⟩
    · have hno := List.find?_eq_none.mp hfind p hp
      simp [hid] at hno
    · dsimp only at h
      split at h <;> cases h
      rfl
  | some p =>
    rw [hfind] at h
    refine .inl ⟨p, List.mem_of_find?_eq_some hfind, ?_, ?_⟩
    · simpa using List.find?_some hfind
    · dsimp only at h
      split at h <;> cases h
      rfl

/-- A choice that succeeded configured what it selected. -/
theorem handleSetConfigModel_ok (h : handleSetConfigModel codex value a = (.ok (), b)) :
    ∃ selection op id, selectConfigModel value a.modelPresets a.config.modelReasoningEffort =
      .ok selection ∧ b = (a.accept op id).withSelection selection := by
  unfold handleSetConfigModel at h
  obtain ⟨_, _, hread, h⟩ := Handler.bind_ok_inv h
  cases hread
  obtain ⟨selection, c, hselect, h⟩ := Handler.bind_ok_inv h
  obtain ⟨hselect, rfl⟩ := Prod.ext_iff.mp hselect
  obtain ⟨op, id, hb⟩ := applySelectedModel_ok h
  exact ⟨selection, op, id, hselect, hb⟩

theorem handleLoad_state (codex : Codex) (a : ThreadActor) :
    (handleLoad codex a).2 = (ensureCurrentModelSelection codex a).2 := by
  unfold handleLoad
  rw [Handler.bind_run]
  split <;> rename_i h <;> rw [h]
  rfl

/-- A load makes no call exactly when there is nothing to normalise, and then it changes
nothing. -/
theorem handleLoad_quiet_iff (codex : Codex) (a : ThreadActor) :
    (handleLoad codex a).2.config.model = a.config.model ∧
        (handleLoad codex a).2.world.calls = a.world.calls ↔ a.normalization = none := by
  rw [handleLoad_state, ensureCurrentModelSelection_run]
  cases hnormal : a.normalization with
  | none => exact ⟨fun _ => rfl, fun _ => ⟨rfl, rfl⟩⟩
  | some selection =>
    refine ⟨fun h => ?_, nofun⟩
    have hcalls := applySelectedModel_calls codex selection a
    rw [h.2] at hcalls
    omega

/-- The value shown is the id of the preset in use, or the model in use when nothing is
offered. -/
theorem modelOption_currentValue (a : ThreadActor) :
    a.modelOption.currentValue = (a.currentPreset.map (·.id)).getD a.getCurrentModel := rfl

/-- **A chosen model lasts** exactly when an offered preset was chosen, or a name that needs
no normalising. -/
theorem chosenModel_lasts_iff {a b : ThreadActor}
    (hmodels : (a.world.models.listModels.map (·.model)).Nodup)
    (hecho : EchoesModel a.world.models)
    (h : handleSetConfigOption codex "model" (.valueId value) a = (.ok (), b)) :
    ChoiceLasts codex value b ↔ ChoosesOffered a value := by
  obtain ⟨selection, op, id, hselect, rfl⟩ := handleSetConfigModel_ok h
  rcases selectConfigModel_cases hselect with ⟨p, hp, rfl, rfl⟩ | ⟨hno, rfl⟩
  · -- an offered preset, found again with its model in use
    refine ⟨fun _ => .inl ⟨p, hp, rfl⟩, fun _ => ?_⟩
    have hquiet := (handleLoad_quiet_iff codex _).mpr
      (@normalization_withSelection a p a.config.modelReasoningEffort hmodels hecho hp op id)
    refine ⟨.inl ?_, hquiet.1, hquiet.2⟩
    rw [modelOption_currentValue]
    unfold currentPreset
    rw [withSelection_inUse hecho, withSelection_presets hecho,
      resolveModelPreset_offered hmodels hp]
    rfl
  · -- a name, configured as it is
    have hnormal : ((a.accept op id).withSelection
        ⟨value, a.config.modelReasoningEffort⟩).normalization = none ↔ ChoosesOffered a value := by
      unfold normalization ChoosesOffered
      rw [withSelection_inUse hecho, withSelection_presets hecho]
      refine (normalizedCurrentModelSelection_eq_none (offered_models hmodels _) _ _).trans ?_
      exact ⟨.inr, fun h => h.resolve_left fun ⟨p, hp, hid⟩ => hno p hp hid⟩
    rw [← hnormal]
    refine ⟨fun hlasts => (handleLoad_quiet_iff codex _).mp ⟨hlasts.configured, hlasts.calls⟩,
      fun hnone => ?_⟩
    have hquiet := (handleLoad_quiet_iff codex _).mpr hnone
    refine ⟨?_, hquiet.1, hquiet.2⟩
    rw [modelOption_currentValue]
    unfold currentPreset
    rw [withSelection_inUse hecho, withSelection_presets hecho]
    rcases hnormal.mp hnone with ⟨p, hp, hid⟩ | hempty | ⟨p, hp, hmodel, -⟩
    · exact absurd hid (hno p hp)
    · rw [hempty]
      exact .inl rfl
    · rw [← hmodel, resolveModelPreset_own (offered_models hmodels _) (hmodel ▸ hp)]
      obtain ⟨q, hq, hoffered⟩ := mem_offered.mp hp
      exact .inr ⟨q, hq, by rw [pickerPreset_eq hoffered]; rfl, by rw [pickerPreset_eq hoffered]⟩

end Choice

/-- The id of the default preset is chosen. -/
theorem chosenModel_lasts_default :
    ChoiceLasts Codex.sample "gpt-5.5"
      (handleSetConfigOption Codex.sample "model" (.valueId "gpt-5.5") ThreadActor.outdated).2 := by
  refine (chosenModel_lasts_iff (a := .outdated) (by decide) (fun _ => rfl)
    (Prod.ext rfl rfl)).mpr (.inl ?_)
  decide +kernel

/-- **A custom model is lost.** It is accepted, and the default model is shown and put in its
place by the next load. -/
theorem customModel_lost :
    let run := handleSetConfigOption Codex.sample "model" (.valueId "custom-model") .outdated
    run.1 = .ok () ∧ run.2.config.model = some "custom-model" ∧
      run.2.modelOption.currentValue = "gpt-5.5" ∧
      (handleLoad Codex.sample run.2).2.config.model = some "gpt-5.5" ∧
      ¬ ChoiceLasts Codex.sample "custom-model" run.2 := by
  refine ⟨rfl, rfl, by decide +kernel, by decide +kernel, fun h => ?_⟩
  exact absurd h.configured (by decide +kernel)

end CodexAcp.Thread
