import CodexAcp.Lib.Text
import CodexAcp.Protocol.Codex

/-!
# Session modes

The session's permission settings and the approval preset they are shown as.
A preset fixes an approval policy and a permission profile; the configuration
holds both, each behind its own constraint, and with the profile the id of the
one that was made active. `currentSessionModeId` reads the preset back from
these three parts.

The constraints are Codex's, and what a cell answers to a value and holds then
is a parameter: a theorem that relies on a refused value changing nothing, or on
an accepted one being held as given, names it (`Constrained.KeepsRefused`,
`Constrained.StoresAccepted`).
-/

namespace CodexAcp

open CodexAcp.Lib CodexAcp.Protocol

/-! ## Configuration -/

/-- A cell behind a constraint. Asked to hold a value, it answers (`answer`) and
holds something from then on (`holds`), both by what it held and was asked for. -/
structure Constrained (α : Type) where
  value : α
  answer : α → α → Except String Unit
  holds : α → α → α

namespace Constrained

variable {α : Type}

/-- Ask the cell to hold a value: its answer, and the cell after it. -/
def set (c : Constrained α) (asked : α) : Except String Unit × Constrained α :=
  (c.answer c.value asked, { c with value := c.holds c.value asked })

/-- The cell accepts the value. -/
def accepts (c : Constrained α) (asked : α) : Bool := (c.set asked).1.isOk

/-- A value the cell refuses leaves it as it was. -/
def KeepsRefused (c : Constrained α) : Prop :=
  ∀ asked, c.accepts asked = false → (c.set asked).2.value = c.value

/-- A value the cell accepts is held as it was given: nothing normalises it. -/
def StoresAccepted (c : Constrained α) : Prop :=
  ∀ asked, c.accepts asked = true → (c.set asked).2.value = asked

/-- A cell that takes every value, for concrete runs. -/
def free (value : α) : Constrained α where
  value := value
  answer _ _ := .ok ()
  holds _ asked := asked

theorem free_keepsRefused (value : α) : (free value).KeepsRefused := nofun

theorem free_storesAccepted (value : α) : (free value).StoresAccepted := fun _ _ => rfl

end Constrained

/-- A permission profile with the id it is active under. -/
structure PermissionProfileSnapshot where
  profile : PermissionProfile
  active : Option ActivePermissionProfile
  deriving DecidableEq, Repr

/-- The permission settings of a session. The profile and its active id are read
one by one and set together. -/
structure Permissions where
  approvalPolicy : Constrained AskForApproval
  sessionSnapshot : Constrained PermissionProfileSnapshot

namespace Permissions

def permissionProfile (p : Permissions) : PermissionProfile := p.sessionSnapshot.value.profile

def activePermissionProfile (p : Permissions) : Option ActivePermissionProfile :=
  p.sessionSnapshot.value.active

def setPermissionProfileFromSessionSnapshot (p : Permissions)
    (snapshot : PermissionProfileSnapshot) : Except String Unit × Permissions :=
  ((p.sessionSnapshot.set snapshot).1,
    { p with sessionSnapshot := (p.sessionSnapshot.set snapshot).2 })

end Permissions

structure Features where
  fastMode : Bool
  goals : Bool
  deriving DecidableEq, Repr

/-- The configuration of a session, as far as its actor reads it. -/
structure Config where
  cwd : String
  model : Option String
  modelReasoningEffort : Option ReasoningEffort
  serviceTier : Option String
  permissions : Permissions
  activeProjectIsUntrusted : Bool
  features : Features

/-- A session in a workspace that asks on request, for concrete runs. -/
def Config.sample : Config where
  cwd := "/"
  model := some "gpt-5.5"
  modelReasoningEffort := some .high
  serviceTier := none
  permissions :=
    { approvalPolicy := .free .onRequest
      sessionSnapshot := .free ⟨.managed [⟨"/", .read⟩, ⟨".", .write⟩] .restricted, none⟩ }
  activeProjectIsUntrusted := false
  features := { fastMode := true, goals := true }

/-! ## Presets and profile ids -/

def codexReadOnlyProfileId : String := ":read-only"
def codexWorkspaceProfileId : String := ":workspace"
def codexDangerNoSandboxProfileId : String := ":danger-no-sandbox"

def sessionModeIdForActiveProfile (profileId : String) : Option SessionModeId :=
  if profileId = codexReadOnlyProfileId then some "read-only"
  else if profileId = codexWorkspaceProfileId then some "auto"
  else if profileId = codexDangerNoSandboxProfileId then some "full-access"
  else none

def activeProfileIdForSessionMode (modeId : String) : Option String :=
  if modeId = "read-only" then some codexReadOnlyProfileId
  else if modeId = "auto" then some codexWorkspaceProfileId
  else if modeId = "full-access" then some codexDangerNoSandboxProfileId
  else none

/-- Policies are compared by constructor: the data of a granular policy does
not matter. -/
def approvalMatchesCurrentConfig (preset : ApprovalPreset) (config : Config) : Bool :=
  preset.approval.discriminant = config.permissions.approvalPolicy.value.discriminant

def modeIdIfApprovalMatches (codex : Codex) (modeId : SessionModeId) (config : Config) :
    Option SessionModeId :=
  (codex.approvalPresets.find? fun preset =>
    preset.id = modeId ∧ approvalMatchesCurrentConfig preset config).map (·.id)

def untrustedReadOnlyModeId (config : Config) : Option SessionModeId :=
  if config.activeProjectIsUntrusted then some "read-only" else none

/-- The preset a permission profile amounts to, whatever its name. -/
def semanticSessionModeIdForPermissionProfile (codex : Codex) (config : Config) :
    Option SessionModeId :=
  let permissionProfile := config.permissions.permissionProfile
  match permissionProfile with
  | .managed _ _ =>
    match codex.approvalPresets.find? (·.id = "auto") with
    | none => none
    | some workspacePreset =>
      if codex.networkSandboxPolicy permissionProfile
          ≠ codex.networkSandboxPolicy workspacePreset.permissionProfile then none
      else if codex.hasFullDiskReadAccess permissionProfile
          && !codex.hasFullDiskWriteAccess permissionProfile
          && codex.canWritePathWithCwd permissionProfile config.cwd config.cwd then some "auto"
      else none
  | .disabled => some "full-access"
  | .external _ => none

/-- The approval preset the session is shown as. -/
def currentSessionModeId (codex : Codex) (config : Config) : Option SessionModeId :=
  match config.permissions.activePermissionProfile with
  | some activeProfile =>
    ((sessionModeIdForActiveProfile activeProfile.id).bind
      (modeIdIfApprovalMatches codex · config)).or (untrustedReadOnlyModeId config)
  | none =>
    match codex.approvalPresets.find? (fun preset =>
        approvalMatchesCurrentConfig preset config
          && preset.permissionProfile = config.permissions.permissionProfile) with
    | some preset => some preset.id
    | none =>
      ((semanticSessionModeIdForPermissionProfile codex config).bind
        (modeIdIfApprovalMatches codex · config)).or (untrustedReadOnlyModeId config)

def modeTrustsProject (modeId : String) : Bool :=
  modeId = "auto" || modeId = "full-access"

/-- The preset an agent mode of the editor stands for. -/
def approvalPresetIdForAgentMode (modeId : String) : Option String :=
  let modeId := Text.trim modeId
  if modeId = "read-only" || modeId = "readonly" || modeId = "read_only" then some "read-only"
  else if modeId = "agent" || modeId = "auto" || modeId = "workspace" then some "auto"
  else if modeId = "agent-full-access" || modeId = "full-access" || modeId = "fullaccess"
      || modeId = "danger" then some "full-access"
  else none

/-- Start in the mode the environment names, if it names one; tell whether it did. -/
def applyInitialAgentModeFromEnv (codex : Codex) (initialAgentMode : Option String)
    (config : Config) : Except String (Config × Bool) :=
  match initialAgentMode.bind approvalPresetIdForAgentMode with
  | none => .ok (config, false)
  | some presetId =>
    match codex.approvalPresets.find? (·.id = presetId) with
    | none => .error "missing approval preset for INITIAL_AGENT_MODE"
    | some preset => do
      let (answer, approvalPolicy) := config.permissions.approvalPolicy.set preset.approval
      answer
      let (answer, permissions) := Permissions.setPermissionProfileFromSessionSnapshot
        { config.permissions with approvalPolicy }
        ⟨preset.permissionProfile, (activeProfileIdForSessionMode preset.id).map ({ id := · })⟩
      answer
      .ok ({ config with permissions }, true)

end CodexAcp
