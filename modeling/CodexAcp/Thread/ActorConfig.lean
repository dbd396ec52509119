import CodexAcp.Thread.ActorModes

/-!
# Configuration options

The options an actor shows for its session, what a request to set one of them
does, and when the actor tells the editor about a change on its own:
`maybeEmitConfigOptionsUpdate` sends the options unless they are the ones it
last sent.

An option has the fields the adapter fills in. The source's `config_options` may fail by
its type and never does; here it is a value. It asks the models manager twice, and
here both answers are of one moment.
-/

namespace CodexAcp.Thread

open CodexAcp.Lib CodexAcp.Protocol CodexAcp.Boundary

def overrideServiceTier (serviceTier : Option String) : Op :=
  .threadSettings { serviceTier := some serviceTier }

def reviewTargetCurrentChanges : String := "current_changes"
def reviewTargetBranchPrefix : String := "branch:"

/-- A mode as a value of a select option. -/
def selectOptionOfMode (m : SessionMode) : SessionConfigSelectOption :=
  { value := m.id, name := m.name, description := m.description }

namespace ThreadActor

/-! ## The options shown -/

def fastModeConfigurable (a : ThreadActor) : Bool := a.config.features.fastMode

def currentServiceTierValue (codex : Codex) (a : ThreadActor) : String :=
  match a.config.serviceTier.bind codex.serviceTierFromRequestValue with
  | none => "default"
  | some .fast => "fast"
  | some .flex => "flex"

def modeOption (a : ThreadActor) : SessionConfigOption :=
  { id := "mode", name := "Mode", currentValue := a.modes.currentModeId
    options := a.modes.availableModes.map selectOptionOfMode
    category := some .mode
    description := some "Choose whether Codex should plan first or work directly" }

def approvalPresetOption (codex : Codex) (a : ThreadActor) : Option SessionConfigOption :=
  (a.approvalPresetConfigOption codex).map fun (currentPresetId, presets) =>
    { id := "approval_preset", name := "Approval Preset", currentValue := currentPresetId
      options := presets.map selectOptionOfMode
      description := some "Choose an approval and sandboxing preset for your session" }

/-- The preset of the current model, among the ones the picker offers. -/
def currentPreset (a : ThreadActor) : Option ModelPreset :=
  resolveModelPreset a.modelPresets (some a.getCurrentModel)

def modelOption (a : ThreadActor) : SessionConfigOption :=
  let presets := a.modelPresets
  let currentModel := a.getCurrentModel
  let currentModelValue := (a.currentPreset.map (·.id)).getD currentModel
  { id := "model", name := "Model", currentValue := currentModelValue
    options :=
      -- Without any preset the current model is still listed, so that the value shown is one of
      -- the options.
      (if a.currentPreset.isNone && presets.isEmpty then
        [{ value := currentModelValue, name := currentModelValue }]
       else []) ++
      (presets.filter fun model =>
        model.showInPicker || model.isDefault || model.model = currentModel).map fun preset =>
          { value := preset.id, name := preset.displayName
            description := some preset.description }
    category := some .model
    description := some "Choose which model Codex should use" }

/-- The effort selector is shown when the current preset supports several. -/
def reasoningEffortOption (codex : Codex) (a : ThreadActor) : Option SessionConfigOption :=
  match a.currentPreset with
  | none => none
  | some preset =>
    let supported := preset.supportedReasoningEfforts
    if supported.length > 1 then
      let currentEffort :=
        (a.config.modelReasoningEffort.filter fun effort =>
          supported.any (·.effort = effort)).getD preset.defaultReasoningEffort
      some
        { id := "reasoning_effort", name := "Reasoning Effort"
          currentValue := codex.effortDisplay currentEffort
          options := supported.map fun e =>
            { value := codex.effortDisplay e.effort
              name := codex.titleCase (codex.effortDisplay e.effort)
              description := some e.description }
          category := some .thoughtLevel
          description := some "Choose how much reasoning effort the model should use" }
    else none

def serviceTierOption (codex : Codex) (a : ThreadActor) : Option SessionConfigOption :=
  if a.fastModeConfigurable then
    some
      { id := "service_tier", name := "Service Tier"
        currentValue := a.currentServiceTierValue codex
        options :=
          [{ value := "default", name := "Default"
             description := some "Use the account and model default service tier" },
           { value := "fast", name := "Fast"
             description := some "Use Codex Fast mode for future turns" },
           { value := "flex", name := "Flex"
             description := some "Use the flex service tier for future turns" }]
        description := some "Choose the Codex service tier used for future turns" }
  else none

def configOptions (codex : Codex) (a : ThreadActor) : List SessionConfigOption :=
  [a.modeOption] ++ (a.approvalPresetOption codex).toList ++ [a.modelOption] ++
    (a.reasoningEffortOption codex).toList ++ (a.serviceTierOption codex).toList

/-- Tell the editor about the options, unless they are the ones last sent. -/
def maybeEmitConfigOptionsUpdate (codex : Codex) (a : ThreadActor) : ThreadActor :=
  let configOptions := a.configOptions codex
  if a.state.lastSentConfigOptions = some configOptions then a
  else
    sendNotification (.configOptionUpdate configOptions)
      { a with state := { a.state with lastSentConfigOptions := some configOptions } }

/-! ## Handlers -/

/-- Edit the configuration file, submit the override, then write the local tier. -/
def setServiceTier (codex : Codex) (serviceTier : Option ServiceTier) :
    Handler ThreadActor Error Unit := do
  let serviceTierValue := serviceTier.map codex.serviceTierRequestValue
  -- The file is edited first: a refused override leaves the edit behind.
  editServiceTier codex serviceTierValue
  submitOk codex (overrideServiceTier serviceTierValue)
  Handler.update fun a => { a with config := { a.config with serviceTier := serviceTierValue } }

def handleSetServiceTier (codex : Codex) (value : String) : Handler ThreadActor Error Unit := do
  let a ← Handler.reads id
  if !a.fastModeConfigurable then
    Handler.fail (Error.invalidParams.withData "Fast mode is not available")
  else if value = "default" || value = "off" then setServiceTier codex none
  else if value = "fast" || value = "on" then setServiceTier codex (some .fast)
  else if value = "flex" then setServiceTier codex (some .flex)
  else Handler.fail (Error.invalidParams.withData "Unsupported service tier")

def setReviewBaseBranch (branch : Option String) (a : ThreadActor) : ThreadActor :=
  { a with state := { a.state with reviewBaseBranch := branch } }

def handleSetReviewTarget (value : String) : Handler ThreadActor Error Unit :=
  if value = reviewTargetCurrentChanges then Handler.update (setReviewBaseBranch none)
  else
    match Text.stripPrefix reviewTargetBranchPrefix value with
    | none => Handler.fail (Error.invalidParams.withData "Unsupported review target")
    | some branch =>
      let branch := Text.trim branch
      if branch = "" then
        Handler.fail (Error.invalidParams.withData "Review branch cannot be empty")
      else Handler.update (setReviewBaseBranch (some branch))

def handleSetConfigOption (codex : Codex) (configId : SessionConfigId)
    (value : SessionConfigOptionValue) : Handler ThreadActor Error Unit :=
  match value with
  | .other => Handler.fail (Error.invalidParams.withData "Unsupported config option value")
  | .valueId value =>
    if configId = "mode" then handleSetMode codex value
    else if configId = "approval_preset" then handleSetApprovalPreset codex value
    else if configId = "review_target" then handleSetReviewTarget value
    else if configId = "model" then handleSetConfigModel codex value
    else if configId = "reasoning_effort" then handleSetConfigReasoningEffort codex value
    else if configId = "service_tier" then handleSetServiceTier codex value
    else Handler.fail (Error.invalidParams.withData "Unsupported config option")

def handleLoad (codex : Codex) : Handler ThreadActor Error LoadSessionResponse := do
  ensureCurrentModelSelection codex
  Handler.reads fun a => { modes := a.modes, configOptions := a.configOptions codex }

end ThreadActor

end CodexAcp.Thread
