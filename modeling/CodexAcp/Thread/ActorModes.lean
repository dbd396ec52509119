import CodexAcp.Thread.ActorModels

/-!
# Session modes and approval presets

Two kinds of mode hide behind one request: an approval preset, which is
submitted as an override and then written to the constrained parts of the
local configuration, and a collaboration mode, which is submitted as an
override and then remembered as the session's mode kind.

Of the configuration the model has the parts a mode touches. What its constrained
cells answer is a parameter (`Constrained`), so a write may be refused, or keep another
value than it was given, unless a theorem names that it does not.
-/

namespace CodexAcp.Thread

open CodexAcp.Lib CodexAcp.Protocol CodexAcp.Boundary

/-! ## Overrides -/

def overrideApprovalPreset (preset : ApprovalPreset) : Op :=
  .threadSettings
    { approvalPolicy := some preset.approval
      permissionProfile := some preset.permissionProfile
      activePermissionProfile := (activeProfileIdForSessionMode preset.id).map (⟨·⟩) }

def overrideCollaborationMode (collaborationMode : CollaborationMode) : Op :=
  .threadSettings { collaborationMode := some collaborationMode }

/-! ## Collaboration modes -/

def collaborationModeId : ModeKind → SessionModeId
  | .default => "default"
  | .plan => "plan"

def collaborationModeKindFromId (id : String) : Option ModeKind :=
  if id = "default" || id = "code" then some .default
  else if id = "plan" then some .plan
  else none

/-- The settings of the collaboration preset for a kind, over the current model
and effort. -/
def collaborationModeForKind (codex : Codex) (kind : ModeKind) (model : String)
    (reasoningEffort : Option ReasoningEffort) : Option CollaborationMode :=
  let base : CollaborationMode :=
    { mode := .default
      settings :=
        { model := model, reasoningEffort := reasoningEffort, developerInstructions := none } }
  (codex.collaborationPresets.find? (·.mode = some kind)).map (codex.applyMask base)

namespace ThreadActor

def modes (a : ThreadActor) : SessionModeState :=
  { currentModeId := collaborationModeId a.state.collaborationModeKindOrDefault
    availableModes :=
      [{ id := collaborationModeId .default, name := "Default"
         description := some "Implement and iterate directly" },
       { id := collaborationModeId .plan, name := "Plan"
         description := some "Plan first, then wait before making code changes" }] }

def approvalPresetConfigOption (codex : Codex) (a : ThreadActor) :
    Option (SessionModeId × List SessionMode) :=
  (currentSessionModeId codex a.config).map fun currentModeId =>
    (currentModeId, codex.approvalPresets.map fun preset =>
      { id := preset.id, name := preset.label, description := some preset.description })

/-! ## Handlers -/

def withPermissions (permissions : Permissions) (a : ThreadActor) : ThreadActor :=
  { a with config := { a.config with permissions } }

@[simp] theorem withPermissions_permissions (permissions : Permissions) (a : ThreadActor) :
    (a.withPermissions permissions).config.permissions = permissions := rfl

/-- Ask for the approval policy; an answer that refuses it ends the handler. -/
def setApprovalPolicy (approval : AskForApproval) : Handler ThreadActor Error Unit := do
  let a ← Handler.reads id
  let (answer, approvalPolicy) := a.config.permissions.approvalPolicy.set approval
  Handler.update (withPermissions { a.config.permissions with approvalPolicy })
  Handler.lift (answer.mapError Error.fromAnyhow)

/-- Ask for the permission profile with its active id; an answer that refuses
them ends the handler. -/
def setPermissionProfile (snapshot : PermissionProfileSnapshot) :
    Handler ThreadActor Error Unit := do
  let a ← Handler.reads id
  let (answer, permissions) :=
    a.config.permissions.setPermissionProfileFromSessionSnapshot snapshot
  Handler.update (withPermissions permissions)
  Handler.lift (answer.mapError Error.fromAnyhow)

/-- Submit the preset's override, then write policy, profile and trust level. -/
def handleSetApprovalPreset (codex : Codex) (mode : SessionModeId) :
    Handler ThreadActor Error Unit :=
  match codex.approvalPresets.find? (mode = ·.id) with
  | none => Handler.fail Error.invalidParams
  | some preset => do
    -- Codex has the override before either constraint is asked, so a refused write leaves the two
    -- apart.
    submitOk codex (overrideApprovalPreset preset)
    setApprovalPolicy preset.approval
    setPermissionProfile
      ⟨preset.permissionProfile, (activeProfileIdForSessionMode preset.id).map (⟨·⟩)⟩
    if modeTrustsProject preset.id then call codex.setProjectTrustLevel else pure ()

def applyCollaborationModeKind (codex : Codex) (kind : ModeKind) :
    Handler ThreadActor Error Unit := do
  let a ← Handler.reads id
  match collaborationModeForKind codex kind a.getCurrentModel a.config.modelReasoningEffort with
  | none =>
    Handler.fail (Error.internalError.withData
      ("No collaboration preset found for " ++ codex.modeDisplayName kind ++ " mode"))
  | some collaborationMode => do
    submitOk codex (overrideCollaborationMode collaborationMode)
    Handler.update fun a =>
      { a with state := { a.state with activeCollaborationModeKind := some kind } }

def handleSetMode (codex : Codex) (mode : SessionModeId) : Handler ThreadActor Error Unit :=
  match approvalPresetIdForAgentMode mode with
  | some presetId => handleSetApprovalPreset codex presetId
  | none =>
    match collaborationModeKindFromId mode with
    | none => Handler.fail (Error.invalidParams.withData "Unsupported collaboration mode")
    | some kind => applyCollaborationModeKind codex kind

end ThreadActor

end CodexAcp.Thread
