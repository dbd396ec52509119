import CodexAcp.Thread.Actor
import CodexAcp.Thread.Overrides

/-!
# Setting an approval preset

A preset is set in four moves, each of which can be refused: the override is
submitted, the approval policy is written behind its constraint, then the
permission profile behind its own, and a preset that trusts the project has the
trust level written to disk. A refusal stops there, and what was written before
it stays written.

> `setApprovalPreset_allOrNothing_iff`: the request is all or nothing exactly
> when the override is refused, or nothing after it is, or what was written
> before the refusal had been there all along.
> `setApprovalPreset_half`: the trust level cannot be written, the request fails,
> and the session runs without a sandbox.
-/

namespace CodexAcp.Thread

open CodexAcp.Lib CodexAcp.Protocol CodexAcp.Boundary ThreadActor

/-! ## All or nothing -/

/-- The settings carry what a preset stands for. -/
def Carries (preset : ApprovalPreset) (s : SecuritySettings) : Prop :=
  s.approvalPolicy = preset.approval ∧ s.permissionProfile = preset.permissionProfile

/-- The security settings of the runtime of an actor, which started as `init`. -/
def runtimeSecurity (init : SecuritySettings) (a : ThreadActor) : SecuritySettings :=
  init.after a.world.accepted

/-- What a request for a preset may come to: it succeeded and the runtime and the
local configuration both carry the preset, or it failed and neither has changed. -/
def AllOrNothing (codex : Codex) (init : SecuritySettings) (mode : SessionModeId)
    (a : ThreadActor) : Prop :=
  match handleSetApprovalPreset codex mode a with
  | (.ok (), b) =>
    ∃ preset ∈ codex.approvalPresets, preset.id = mode ∧
      Carries preset (runtimeSecurity init b) ∧ Carries preset b.securitySettings
  | (.error _, b) =>
    runtimeSecurity init b = runtimeSecurity init a ∧ b.securitySettings = a.securitySettings

/-! ## The moves -/

/-- The profile id a preset makes active. -/
def presetActiveProfile (preset : ApprovalPreset) : Option ActivePermissionProfile :=
  (activeProfileIdForSessionMode preset.id).map (⟨·⟩)

/-- The security settings a preset overrides some with. -/
def presetSecurity (preset : ApprovalPreset) (s : SecuritySettings) : SecuritySettings :=
  { approvalPolicy := preset.approval
    permissionProfile := preset.permissionProfile
    activePermissionProfile := (presetActiveProfile preset).or s.activePermissionProfile }

/-- Codex accepts the override of the preset. -/
def overrideAccepted (codex : Codex) (a : ThreadActor) (preset : ApprovalPreset) : Bool :=
  match codex.submit a.world.calls (overrideApprovalPreset preset) with
  | .ok _ => true
  | .error _ => false

/-- The profile and the active id a preset is set with. -/
def presetSnapshot (preset : ApprovalPreset) : PermissionProfileSnapshot where
  profile := preset.permissionProfile
  active := presetActiveProfile preset

/-- The constraint on the approval policy accepts the preset's. -/
def policyAccepted (a : ThreadActor) (preset : ApprovalPreset) : Bool :=
  a.config.permissions.approvalPolicy.accepts preset.approval

/-- The constraint on the permission profile accepts the preset's. -/
def profileAccepted (a : ThreadActor) (preset : ApprovalPreset) : Bool :=
  a.config.permissions.sessionSnapshot.accepts (presetSnapshot preset)

/-- The trust level is written, where the preset asks for it; the override was
one call before. -/
def trustWritten (codex : Codex) (a : ThreadActor) (preset : ApprovalPreset) : Bool :=
  !modeTrustsProject preset.id ||
    match codex.setProjectTrustLevel (a.world.calls + 1) with
    | .ok () => true
    | .error _ => false

/-- The local moves of a preset after its override was accepted. -/
def localMoves (codex : Codex) (preset : ApprovalPreset) : Handler ThreadActor Error Unit := do
  setApprovalPolicy preset.approval
  setPermissionProfile (presetSnapshot preset)
  if modeTrustsProject preset.id then call codex.setProjectTrustLevel else pure ()

/-- The local permissions as the moves leave them: the profile is asked for once
the policy is accepted. -/
def movedPermissions (preset : ApprovalPreset) (a : ThreadActor) : Permissions :=
  { approvalPolicy := (a.config.permissions.approvalPolicy.set preset.approval).2
    sessionSnapshot :=
      if policyAccepted a preset then
        (a.config.permissions.sessionSnapshot.set (presetSnapshot preset)).2
      else a.config.permissions.sessionSnapshot }

/-- The actor as the local moves of a preset leave its configuration. -/
def movedBy (preset : ApprovalPreset) (a : ThreadActor) : ThreadActor :=
  a.withPermissions (movedPermissions preset a)

/-- Nothing after the override is refused. -/
def movesAccepted (codex : Codex) (a : ThreadActor) (preset : ApprovalPreset) : Bool :=
  policyAccepted a preset && profileAccepted a preset && trustWritten codex a preset

/-- What a preset writes before a refusal was there already: the override changes
nothing in the runtime, and neither does a local move that is not refused. -/
structure HeldBefore (init : SecuritySettings) (a : ThreadActor) (preset : ApprovalPreset) :
    Prop where
  runtime : presetSecurity preset (runtimeSecurity init a) = runtimeSecurity init a
  policy : policyAccepted a preset = true →
    a.config.permissions.approvalPolicy.value = preset.approval
  profile : policyAccepted a preset = true → profileAccepted a preset = true →
    a.config.permissions.permissionProfile = preset.permissionProfile ∧
      a.config.permissions.activePermissionProfile = presetActiveProfile preset

/-- The condition: the preset is unknown, or its override is refused, or no later
move is, or else nothing that was written changed anything. -/
def ChangesWhole (codex : Codex) (init : SecuritySettings) (mode : SessionModeId)
    (a : ThreadActor) : Prop :=
  ∀ preset, codex.approvalPresets.find? (mode = ·.id) = some preset →
    overrideAccepted codex a preset = true → movesAccepted codex a preset = false →
    HeldBefore init a preset

theorem setApprovalPolicy_run (approval : AskForApproval) (a : ThreadActor) :
    setApprovalPolicy approval a =
      ((a.config.permissions.approvalPolicy.set approval).1.mapError Error.fromAnyhow,
        a.withPermissions { a.config.permissions with
          approvalPolicy := (a.config.permissions.approvalPolicy.set approval).2 }) := by
  unfold setApprovalPolicy
  rw [Handler.bind_run, Handler.reads_run]
  dsimp only
  rw [Handler.bind_run, Handler.update_run]
  rfl

theorem setPermissionProfile_run (snapshot : PermissionProfileSnapshot) (a : ThreadActor) :
    setPermissionProfile snapshot a =
      ((a.config.permissions.sessionSnapshot.set snapshot).1.mapError Error.fromAnyhow,
        a.withPermissions
          (a.config.permissions.setPermissionProfileFromSessionSnapshot snapshot).2) := by
  unfold setPermissionProfile
  rw [Handler.bind_run, Handler.reads_run]
  dsimp only
  rw [Handler.bind_run, Handler.update_run]
  rfl

/-- The local moves succeed when none is refused, and leave the moved permissions
and what Codex accepted as it was. -/
theorem localMoves_run (codex : Codex) (preset : ApprovalPreset) (a : ThreadActor) (id : String) :
    let run := localMoves codex preset (a.accept (overrideApprovalPreset preset) id)
    (run.1 = .ok () ↔ movesAccepted codex a preset = true) ∧
      run.2.config = (movedBy preset a).config ∧ run.2.state = a.state ∧
      run.2.world.models = a.world.models ∧
      run.2.world.accepted = a.world.accepted ++ [(overrideApprovalPreset preset, id)] := by
  dsimp only
  unfold localMoves movesAccepted movedBy movedPermissions policyAccepted profileAccepted
    trustWritten Constrained.accepts
  rw [Handler.bind_run, setApprovalPolicy_run]
  rw [show (a.accept (overrideApprovalPreset preset) id).config = a.config from rfl]
  cases (a.config.permissions.approvalPolicy.set preset.approval).1 with
  | error e => exact ⟨by simp [Except.mapError, Except.isOk, Except.toBool], rfl, rfl, rfl, rfl⟩
  | ok _ =>
    dsimp only [Except.mapError]
    rw [Handler.bind_run, setPermissionProfile_run]
    simp only [withPermissions_permissions]
    cases (a.config.permissions.sessionSnapshot.set (presetSnapshot preset)).1 with
    | error e => exact ⟨by simp [Except.mapError, Except.isOk, Except.toBool], rfl, rfl, rfl, rfl⟩
    | ok _ =>
      dsimp only [Except.mapError]
      by_cases htrust : modeTrustsProject preset.id
      · rw [if_pos htrust]
        rw [call_run]
        show ((codex.setProjectTrustLevel (a.world.calls + 1)) = .ok () ↔ _) ∧ _
        refine ⟨?_, rfl, rfl, rfl, rfl⟩
        cases codex.setProjectTrustLevel (a.world.calls + 1) <;>
          simp [htrust, Except.isOk, Except.toBool]
      · rw [if_neg htrust]
        exact ⟨by simp [htrust, Except.isOk, Except.toBool], rfl, rfl, rfl, rfl⟩

/-- The override of the preset is accepted and a later move is refused. -/
def halfApplied (codex : Codex) (mode : SessionModeId) (a : ThreadActor) : Bool :=
  match codex.approvalPresets.find? (mode = ·.id) with
  | none => false
  | some preset => overrideAccepted codex a preset && !movesAccepted codex a preset

/-- A request that is not half applied succeeds, or it made a call at most. -/
theorem handleSetApprovalPreset_whole (codex : Codex) (mode : SessionModeId) (a : ThreadActor) :
    match handleSetApprovalPreset codex mode a with
    | (.ok (), _) => halfApplied codex mode a = false
    | (.error _, b) => halfApplied codex mode a = true ∨ b = a ∨ b = a.called := by
  unfold handleSetApprovalPreset halfApplied
  cases codex.approvalPresets.find? (mode = ·.id) with
  | none => exact .inr (.inl rfl)
  | some preset =>
    dsimp only
    rw [Handler.bind_run, submitOk_run]
    unfold overrideAccepted
    cases hsubmit : codex.submit a.world.calls (overrideApprovalPreset preset) with
    | error e => exact .inr (.inr rfl)
    | ok id =>
      have hok := (localMoves_run codex preset a id).1
      show match localMoves codex preset (a.accept (overrideApprovalPreset preset) id) with
        | (.ok (), _) => _
        | (.error _, b) => _
      match hmoves : localMoves codex preset (a.accept (overrideApprovalPreset preset) id) with
      | (.ok (), b) =>
        rw [hmoves] at hok
        simp [hok.mp rfl]
      | (.error e, b) =>
        rw [hmoves] at hok
        have hrefused : movesAccepted codex a preset = false :=
          Bool.eq_false_iff.mpr fun h => by cases hok.mpr h
        simp [hrefused]

/-- The local moves write no turn setting. -/
theorem localMoves_turnSettings (codex : Codex) (preset : ApprovalPreset) (a : ThreadActor)
    (id : String) :
    (localMoves codex preset (a.accept (overrideApprovalPreset preset) id)).2.turnSettings =
      a.turnSettings := by
  obtain ⟨-, hconfig, hstate, -⟩ := localMoves_run codex preset a id
  unfold turnSettings
  rw [hconfig, hstate]
  rfl

/-! ## The result -/

/-- The constraints on the permissions keep what they hold when they refuse, and
hold what they accept as it was given. -/
structure PlainPermissions (p : Permissions) : Prop where
  policyKept : p.approvalPolicy.KeepsRefused
  policyStored : p.approvalPolicy.StoresAccepted
  snapshotKept : p.sessionSnapshot.KeepsRefused
  snapshotStored : p.sessionSnapshot.StoresAccepted

section Result

variable {codex : Codex} {init : SecuritySettings} {a b : ThreadActor} {preset : ApprovalPreset}

/-- The security settings are the configuration's. -/
theorem securitySettings_of_config (h : b.config = a.config) :
    b.securitySettings = a.securitySettings := by
  unfold securitySettings
  rw [h]

/-- An accepted override sets the runtime to the preset. -/
theorem runtimeSecurity_accepted {id : String}
    (h : b.world.accepted = a.world.accepted ++ [(overrideApprovalPreset preset, id)]) :
    runtimeSecurity init b = presetSecurity preset (runtimeSecurity init a) := by
  unfold runtimeSecurity
  rw [h, SecuritySettings.after_accept]
  rfl

theorem movedBy_securitySettings :
    (movedBy preset a).securitySettings =
      let snapshot := if policyAccepted a preset then
        (a.config.permissions.sessionSnapshot.set (presetSnapshot preset)).2.value
      else a.config.permissions.sessionSnapshot.value
      { approvalPolicy := (a.config.permissions.approvalPolicy.set preset.approval).2.value
        permissionProfile := snapshot.profile
        activePermissionProfile := snapshot.active } := by
  unfold movedBy movedPermissions
  cases policyAccepted a preset <;> rfl

/-- With no move refused, the local settings are the preset's. -/
theorem movedBy_security_of_accepted
    (hpolicy : a.config.permissions.approvalPolicy.StoresAccepted)
    (hsnapshot : a.config.permissions.sessionSnapshot.StoresAccepted)
    (hpolicyAccepted : policyAccepted a preset = true)
    (hprofileAccepted : profileAccepted a preset = true) :
    (movedBy preset a).securitySettings =
      { approvalPolicy := preset.approval
        permissionProfile := preset.permissionProfile
        activePermissionProfile := presetActiveProfile preset } := by
  rw [movedBy_securitySettings, if_pos hpolicyAccepted, hpolicy _ hpolicyAccepted,
    hsnapshot _ hprofileAccepted]
  rfl

/-- The moves before a refusal change nothing locally exactly when what they
write was there. -/
theorem movedBy_security_eq_iff (h : PlainPermissions a.config.permissions) :
    (movedBy preset a).securitySettings = a.securitySettings ↔
      (policyAccepted a preset = true →
        a.config.permissions.approvalPolicy.value = preset.approval) ∧
      (policyAccepted a preset = true → profileAccepted a preset = true →
        a.config.permissions.permissionProfile = preset.permissionProfile ∧
          a.config.permissions.activePermissionProfile = presetActiveProfile preset) := by
  rw [movedBy_securitySettings]
  unfold securitySettings Permissions.permissionProfile Permissions.activePermissionProfile
  cases hpolicy : policyAccepted a preset with
  | false =>
    rw [h.policyKept _ hpolicy]
    simp
  | true =>
    rw [h.policyStored _ hpolicy]
    cases hprofile : profileAccepted a preset with
    | false =>
      rw [if_pos rfl, h.snapshotKept _ hprofile]
      simp [eq_comm]
    | true =>
      rw [if_pos rfl, h.snapshotStored _ hprofile]
      simp [eq_comm, presetSnapshot]

/-- **Setting a preset is all or nothing** exactly when nothing was written that
a later refusal leaves behind. -/
theorem setApprovalPreset_allOrNothing_iff (codex : Codex) (init : SecuritySettings)
    (mode : SessionModeId) (a : ThreadActor) (hplain : PlainPermissions a.config.permissions) :
    AllOrNothing codex init mode a ↔ ChangesWhole codex init mode a := by
  unfold AllOrNothing ChangesWhole handleSetApprovalPreset
  cases hfind : codex.approvalPresets.find? (mode = ·.id) with
  | none => exact ⟨fun _ preset h => by simp at h, fun _ => ⟨rfl, rfl⟩⟩
  | some preset =>
    dsimp only
    rw [Handler.bind_run, submitOk_run]
    cases hsubmit : codex.submit a.world.calls (overrideApprovalPreset preset) with
    | error e =>
      refine ⟨fun _ preset' h haccepted => ?_, fun _ => ⟨rfl, rfl⟩⟩
      cases h
      simp [overrideAccepted, hsubmit] at haccepted
    | ok id =>
      obtain ⟨hok, hconfig, -, -, haccepted⟩ := localMoves_run codex preset a id
      have hlocal := securitySettings_of_config hconfig
      have hmem := List.mem_of_find?_eq_some hfind
      have hmatch := List.find?_some hfind
      have hmode : preset.id = mode := (decide_eq_true_eq.mp hmatch).symm
      have hruntime : ∀ init, runtimeSecurity init _ = presetSecurity preset (runtimeSecurity init a) :=
        fun _ => runtimeSecurity_accepted haccepted
      show (match localMoves codex preset (a.accept (overrideApprovalPreset preset) id) with
        | (.ok (), b) => ∃ preset ∈ codex.approvalPresets, preset.id = mode ∧
            Carries preset (runtimeSecurity init b) ∧ Carries preset b.securitySettings
        | (.error _, b) => runtimeSecurity init b = runtimeSecurity init a ∧
            b.securitySettings = a.securitySettings) ↔ _
      match hmoves : localMoves codex preset (a.accept (overrideApprovalPreset preset) id) with
      | (.ok (), b) =>
        rw [hmoves] at hok hlocal hruntime
        have hall := hok.mp rfl
        dsimp only at hlocal hruntime ⊢
        constructor
        · intro _ preset' h _ hrefused
          cases h
          rw [hall] at hrefused
          cases hrefused
        · intro _
          refine ⟨preset, hmem, hmode, ?_, ?_⟩
          · rw [hruntime]
            exact ⟨rfl, rfl⟩
          · rw [hlocal]
            simp only [movesAccepted, Bool.and_eq_true] at hall
            rw [movedBy_security_of_accepted hplain.policyStored hplain.snapshotStored hall.1.1
              hall.1.2]
            exact ⟨rfl, rfl⟩
      | (.error e, b) =>
        rw [hmoves] at hok hlocal hruntime
        have hrefused : movesAccepted codex a preset = false :=
          Bool.eq_false_iff.mpr fun h => by cases hok.mpr h
        dsimp only at hlocal hruntime ⊢
        rw [hruntime, hlocal, movedBy_security_eq_iff hplain]
        constructor
        · rintro ⟨hheld, hpolicy, hprofile⟩ preset' h _ _
          cases h
          exact ⟨hheld, hpolicy, hprofile⟩
        · intro h
          obtain ⟨hheld, hpolicy, hprofile⟩ :=
            h preset rfl (by simp [overrideAccepted, hsubmit]) hrefused
          exact ⟨hheld, hpolicy, hprofile⟩

end Result

/-- A session that asks for everything may be set to full access. -/
theorem setApprovalPreset_allOrNothing_sample :
    let a := (Running.start Config.sample ModelsManager.sample).actor
    AllOrNothing .sample a.securitySettings "full-access" a :=
  (setApprovalPreset_allOrNothing_iff .sample _ "full-access" _
    ⟨Constrained.free_keepsRefused _, Constrained.free_storesAccepted _,
      Constrained.free_keepsRefused _, Constrained.free_storesAccepted _⟩).mpr
    fun _ hfind _ hrefused => by cases hfind; cases hrefused

/-! ## A half-applied preset -/

/-- The file with the trust levels cannot be written. -/
def readOnlyHome : Codex :=
  { Codex.sample with setProjectTrustLevel := fun _ => .error Error.invalidParams }

/-- **A half-applied preset.** The request for full access fails, and the runtime
and the local configuration are without a sandbox. -/
theorem setApprovalPreset_half :
    (let run := handleSetApprovalPreset readOnlyHome "full-access"
      (Running.start Config.sample ModelsManager.sample).actor
     let init := (Running.start Config.sample ModelsManager.sample).actor.securitySettings
     run.1 = .error Error.invalidParams ∧
      (runtimeSecurity init run.2).permissionProfile = .disabled ∧
      run.2.securitySettings.permissionProfile = .disabled ∧
      ¬ AllOrNothing readOnlyHome init "full-access"
        (Running.start Config.sample ModelsManager.sample).actor) := by
  refine ⟨rfl, rfl, rfl, fun h => ?_⟩
  exact absurd (congrArg SecuritySettings.permissionProfile h.2) (by decide)

end CodexAcp.Thread
