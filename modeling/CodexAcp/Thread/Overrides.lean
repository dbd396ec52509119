import CodexAcp.Thread.SettingsFrame

/-!
# The settings of the runtime

Codex is told about the session's settings through overrides, partial records of
the fields to change. What the runtime holds is therefore the fold of the
overrides it accepted over what it started with, and the local configuration is
the actor's copy of it. Two parts of the settings are followed here: what a turn
runs with (`TurnSettings`) and what it may do (`SecuritySettings`).

An override that does not carry a field leaves it alone, so a preset never moves
the model (`TurnSettings.override_security`).
-/

namespace CodexAcp.Thread

open CodexAcp.Lib CodexAcp.Protocol CodexAcp.Boundary

/-! ## Two parts of the settings -/

/-- What a turn runs with. -/
structure TurnSettings where
  model : Option String
  reasoningEffort : Option ReasoningEffort
  serviceTier : Option String
  modeKind : Option ModeKind
  deriving DecidableEq, Repr

/-- What a turn may do. -/
structure SecuritySettings where
  approvalPolicy : AskForApproval
  permissionProfile : PermissionProfile
  activePermissionProfile : Option ActivePermissionProfile
  deriving DecidableEq, Repr

/-- Set exactly the fields the override carries; of a collaboration mode, its kind. -/
def TurnSettings.override (s : TurnSettings) (overrides : ThreadSettingsOverrides) :
    TurnSettings :=
  { model := overrides.model.or s.model
    reasoningEffort := overrides.effort.getD s.reasoningEffort
    serviceTier := overrides.serviceTier.getD s.serviceTier
    modeKind := (overrides.collaborationMode.map (·.mode)).or s.modeKind }

def SecuritySettings.override (s : SecuritySettings) (overrides : ThreadSettingsOverrides) :
    SecuritySettings :=
  { approvalPolicy := overrides.approvalPolicy.getD s.approvalPolicy
    permissionProfile := overrides.permissionProfile.getD s.permissionProfile
    activePermissionProfile := overrides.activePermissionProfile.or s.activePermissionProfile }

/-- The overrides Codex accepted, oldest first. -/
def acceptedOverrides (accepted : List (Op × String)) : List ThreadSettingsOverrides :=
  accepted.filterMap fun o => o.1.overrides

/-- The turn settings of the runtime after some accepted ops. -/
def TurnSettings.after (s : TurnSettings) (accepted : List (Op × String)) : TurnSettings :=
  (acceptedOverrides accepted).foldl TurnSettings.override s

def SecuritySettings.after (s : SecuritySettings) (accepted : List (Op × String)) :
    SecuritySettings :=
  (acceptedOverrides accepted).foldl SecuritySettings.override s

namespace ThreadActor

/-- The actor's copy of the turn settings. -/
def turnSettings (a : ThreadActor) : TurnSettings :=
  { model := a.config.model
    reasoningEffort := a.config.modelReasoningEffort
    serviceTier := a.config.serviceTier
    modeKind := a.state.activeCollaborationModeKind }

/-- The actor's copy of the security settings. -/
def securitySettings (a : ThreadActor) : SecuritySettings :=
  { approvalPolicy := a.config.permissions.approvalPolicy.value
    permissionProfile := a.config.permissions.permissionProfile
    activePermissionProfile := a.config.permissions.activePermissionProfile }

end ThreadActor

/-! ## Folding overrides -/

theorem acceptedOverrides_append (accepted accepted' : List (Op × String)) :
    acceptedOverrides (accepted ++ accepted') =
      acceptedOverrides accepted ++ acceptedOverrides accepted' :=
  List.filterMap_append

theorem acceptedOverrides_of_none {ops : List (Op × String)}
    (h : ∀ o ∈ ops, o.1.overrides = none) : acceptedOverrides ops = [] :=
  List.filterMap_eq_nil_iff.mpr h

theorem TurnSettings.after_append (s : TurnSettings) (accepted accepted' : List (Op × String)) :
    s.after (accepted ++ accepted') = (s.after accepted).after accepted' := by
  unfold TurnSettings.after
  rw [acceptedOverrides_append, List.foldl_append]

theorem SecuritySettings.after_append (s : SecuritySettings)
    (accepted accepted' : List (Op × String)) :
    s.after (accepted ++ accepted') = (s.after accepted).after accepted' := by
  unfold SecuritySettings.after
  rw [acceptedOverrides_append, List.foldl_append]

/-- An override of the security settings alone. -/
theorem TurnSettings.override_security (s : TurnSettings) {overrides : ThreadSettingsOverrides}
    (hmodel : overrides.model = none) (heffort : overrides.effort = none)
    (htier : overrides.serviceTier = none) (hmode : overrides.collaborationMode = none) :
    s.override overrides = s := by
  unfold TurnSettings.override
  rw [hmodel, heffort, htier, hmode]
  rfl

/-- An override accepted last. -/
theorem SecuritySettings.after_accept (s : SecuritySettings) (op : Op) (id : String)
    (accepted : List (Op × String)) :
    s.after (accepted ++ [(op, id)]) =
      match op.overrides with
      | some overrides => (s.after accepted).override overrides
      | none => s.after accepted := by
  rw [SecuritySettings.after_append]
  unfold SecuritySettings.after acceptedOverrides
  cases h : op.overrides <;> simp [h]

end CodexAcp.Thread
