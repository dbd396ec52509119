import CodexAcp.Thread.ThreadActor

/-!
# Choosing a model and an effort

The model picker offers the presets of a recent model with at least one high
effort. Choosing a model or an effort submits an override and, once Codex
accepted it, writes the same values to the local configuration; loading a
session does the same when the configured model is not one the picker offers.

The presets are those the models manager has at the time (`World.models`); asking it
never fails, in the source either. Whether a model is recent is read off its name, as
the source does (`modelIsGpt53OrNewer`).
-/

namespace CodexAcp.Thread

open CodexAcp.Lib CodexAcp.Protocol CodexAcp.Boundary

/-! ## Overrides -/

inductive ReasoningEffortOverride where
  | set (effort : ReasoningEffort)
  | clear
  deriving DecidableEq, Repr

namespace ReasoningEffortOverride

def fromSelectedEffort : Option ReasoningEffort → ReasoningEffortOverride
  | some effort => .set effort
  | none => .clear

def intoOpValue : ReasoningEffortOverride → Option ReasoningEffort
  | .set effort => some effort
  | .clear => none

end ReasoningEffortOverride

def overrideModel (model : Option String) (effort : ReasoningEffortOverride) : Op :=
  .threadSettings { model := model, effort := some effort.intoOpValue }

/-! ## The model picker -/

def reasoningEffortIsHighOrHigher : ReasoningEffort → Bool
  | .high | .xhigh | .max | .ultra => true
  | _ => false

def modelIsGpt53OrNewer (model : String) : Bool :=
  match Text.stripPrefix "gpt-" model with
  | none => false
  | some version =>
    match Text.splitOnce '.' version with
    | none => false
    | some (major, rest) =>
      match Text.parseUnsigned 32 major with
      | none => false
      | some major =>
        match Text.parseUnsigned 32 (String.ofList (rest.toList.takeWhile Text.isAsciiDigit)) with
        | none => false
        | some minor => major > 5 || (major == 5 && minor ≥ 3)

/-- The preset of a model, else the default preset, else the first one. -/
def resolveModelPreset (presets : List ModelPreset) (currentModel : Option String) :
    Option ModelPreset :=
  ((currentModel.bind fun model => presets.find? (·.model = model)).or
    (presets.find? (·.isDefault))).or presets.head?

/-- A preset as the picker offers it: recent, shown, and cut to its high efforts. -/
def pickerPreset (currentModel : Option String) (preset : ModelPreset) : Option ModelPreset :=
  let isCurrent := currentModel.any fun model => model = preset.model || model = preset.id
  if !modelIsGpt53OrNewer preset.model
      || !(preset.showInPicker || preset.isDefault || isCurrent) then none
  else
    match preset.supportedReasoningEfforts.filter
        fun e => reasoningEffortIsHighOrHigher e.effort with
    | [] => none
    | first :: others =>
      some
        { preset with
          supportedReasoningEfforts := first :: others
          defaultReasoningEffort :=
            if !reasoningEffortIsHighOrHigher preset.defaultReasoningEffort then first.effort
            else preset.defaultReasoningEffort }

def filterModelPresetsForPicker (presets : List ModelPreset) (currentModel : Option String) :
    List ModelPreset :=
  presets.filterMap (pickerPreset currentModel)

/-! ## Selections -/

structure ModelSelection where
  model : String
  reasoningEffort : Option ReasoningEffort
  deriving DecidableEq, Repr

def supportsReasoningEffort (preset : ModelPreset) (effort : ReasoningEffort) : Bool :=
  preset.supportedReasoningEfforts.any (·.effort = effort)

def effectiveReasoningEffort (preset : ModelPreset) (configuredEffort : Option ReasoningEffort) :
    ReasoningEffort :=
  (configuredEffort.filter (supportsReasoningEffort preset)).getD preset.defaultReasoningEffort

def selectConfigModel (modelId : String) (presets : List ModelPreset)
    (configuredEffort : Option ReasoningEffort) : Except Error ModelSelection :=
  let preset := presets.find? (·.id = modelId)
  let model := (preset.map (·.model)).getD modelId
  if model = "" then .error (Error.invalidParams.withData "No model selected")
  else
    .ok
      { model := model
        reasoningEffort := match preset with
          | none => configuredEffort
          | some preset => some (effectiveReasoningEffort preset configuredEffort) }

/-- The selection a configured model is normalised to, when it needs to be. -/
def normalizedCurrentModelSelection (currentModel : String) (presets : List ModelPreset)
    (configuredEffort : Option ReasoningEffort) : Option ModelSelection :=
  match resolveModelPreset presets (some currentModel) with
  | none => none
  | some preset =>
    let effort := effectiveReasoningEffort preset configuredEffort
    if preset.model = currentModel && configuredEffort = some effort then none
    else some { model := preset.model, reasoningEffort := some effort }

/-! ## Handlers -/

namespace ThreadActor

def getCurrentModel (a : ThreadActor) : String := a.world.models.getModel a.config.model

def modelPresets (a : ThreadActor) : List ModelPreset :=
  filterModelPresetsForPicker a.world.models.listModels (some a.getCurrentModel)

def submitModelOverride (codex : Codex) (model : Option String)
    (effort : ReasoningEffortOverride) : Handler ThreadActor Error Unit :=
  submitOk codex (overrideModel model effort)

def applySelectedModel (codex : Codex) (selection : ModelSelection) :
    Handler ThreadActor Error Unit := do
  submitModelOverride codex (some selection.model) (.fromSelectedEffort selection.reasoningEffort)
  Handler.update fun a =>
    { a with config :=
      { a.config with
        model := some selection.model
        modelReasoningEffort := selection.reasoningEffort } }

def handleSetConfigModel (codex : Codex) (value : String) : Handler ThreadActor Error Unit := do
  let a ← Handler.reads id
  let selection ← Handler.lift
    (selectConfigModel value a.modelPresets a.config.modelReasoningEffort)
  applySelectedModel codex selection

def handleSetConfigReasoningEffort (codex : Codex) (value : String) :
    Handler ThreadActor Error Unit := do
  match codex.parseEffort value with
  | none => Handler.fail Error.invalidParams
  | some effort => do
    let a ← Handler.reads id
    match a.modelPresets.find? (·.model = a.getCurrentModel) with
    | none =>
      Handler.fail (Error.invalidParams.withData
        "Reasoning effort can only be set for known model presets")
    | some preset =>
      if !supportsReasoningEffort preset effort then
        Handler.fail (Error.invalidParams.withData
          "Unsupported reasoning effort for selected model")
      else do
        submitModelOverride codex none (.set effort)
        Handler.update fun a =>
          { a with config := { a.config with modelReasoningEffort := some effort } }

def ensureCurrentModelSelection (codex : Codex) : Handler ThreadActor Error Unit := do
  let a ← Handler.reads id
  match normalizedCurrentModelSelection a.getCurrentModel a.modelPresets
      a.config.modelReasoningEffort with
  | none => pure ()
  | some selection => applySelectedModel codex selection

end ThreadActor

end CodexAcp.Thread
