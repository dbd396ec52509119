import CodexAcp.Thread.FailClosed
import CodexAcp.Thread.StepEffect

/-!
# Automatic approval and the full-access preset

The actor approves an exec or patch request by itself when its permission
profile is disabled. The preset it shows is read from the approval policy and
the active profile too, so a session without a sandbox is shown as full access
only when its policy is to never ask and no other profile is named active:

> `currentSessionModeId_fullAccess_iff`: what a session without a sandbox is shown as.
> `autoApproval_inFullAccess_iff`: the actor approves unasked only in full
> access, on exactly the runs that put no approval to an actor without a sandbox
> that is not in full access.
> `autoApproval_outsideFullAccess`: a session without a sandbox that is to ask on
> request does not ask.
-/

namespace CodexAcp.Thread

open CodexAcp.Lib CodexAcp.Protocol CodexAcp.Boundary

/-! ## What a session without a sandbox is shown as -/

/-- The table of approval presets: full access never asks, and it alone is
without a sandbox. -/
structure PresetTable (codex : Codex) : Prop where
  fullAccess : ∃ preset ∈ codex.approvalPresets, preset.id = "full-access"
  never : ∀ preset ∈ codex.approvalPresets, preset.id = "full-access" → preset.approval = .never
  sandbox : ∀ preset ∈ codex.approvalPresets, preset.permissionProfile = .disabled →
    preset.id = "full-access"

theorem presetTable_sample : PresetTable Codex.sample := by
  constructor <;> decide

/-- The policy is to never ask, and no profile but the one without a sandbox is
named active. -/
def inFullAccess (config : Config) : Bool :=
  config.permissions.approvalPolicy.value = .never &&
    config.permissions.activePermissionProfile.all (·.id = codexDangerNoSandboxProfileId)

theorem discriminant_eq_never {approval : AskForApproval} :
    AskForApproval.discriminant .never = approval.discriminant ↔ approval = .never := by
  cases approval <;> simp [AskForApproval.discriminant]

/-- The full-access preset matches a configuration that is to never ask. -/
theorem approvalMatches_fullAccess {codex : Codex} (hpresets : PresetTable codex)
    {preset : ApprovalPreset} (hmem : preset ∈ codex.approvalPresets)
    (hid : preset.id = "full-access") {config : Config} :
    approvalMatchesCurrentConfig preset config = true ↔
      config.permissions.approvalPolicy.value = .never := by
  unfold approvalMatchesCurrentConfig
  rw [hpresets.never preset hmem hid, decide_eq_true_eq]
  exact discriminant_eq_never

/-- A mode found by its preset is that mode, and the preset matches. -/
theorem modeIdIfApprovalMatches_eq {codex : Codex} {modeId found : SessionModeId}
    {config : Config} (h : modeIdIfApprovalMatches codex modeId config = some found) :
    found = modeId ∧ ∃ preset ∈ codex.approvalPresets, preset.id = modeId ∧
      approvalMatchesCurrentConfig preset config = true := by
  obtain ⟨preset, hfind, rfl⟩ := Option.map_eq_some_iff.mp h
  have hmatch := List.find?_some hfind
  simp only [decide_eq_true_eq] at hmatch
  exact ⟨hmatch.1, preset, List.mem_of_find?_eq_some hfind, hmatch⟩

theorem modeIdIfApprovalMatches_fullAccess {codex : Codex} (hpresets : PresetTable codex)
    (config : Config) :
    modeIdIfApprovalMatches codex "full-access" config = some "full-access" ↔
      config.permissions.approvalPolicy.value = .never := by
  constructor
  · intro h
    obtain ⟨_, preset, hmem, hid, hmatch⟩ := modeIdIfApprovalMatches_eq h
    exact (approvalMatches_fullAccess hpresets hmem hid).mp hmatch
  · intro hpolicy
    obtain ⟨preset, hmem, hid⟩ := hpresets.fullAccess
    have hmatch := (approvalMatches_fullAccess hpresets hmem hid).mpr hpolicy
    cases hfound : modeIdIfApprovalMatches codex "full-access" config with
    | some found => rw [(modeIdIfApprovalMatches_eq hfound).1]
    | none =>
      have hno := List.find?_eq_none.mp (Option.map_eq_none_iff.mp hfound) preset hmem
      simp only [decide_eq_true_eq] at hno
      exact absurd ⟨hid, hmatch⟩ hno

theorem untrusted_ne_fullAccess (config : Config) :
    untrustedReadOnlyModeId config ≠ some "full-access" := by
  unfold untrustedReadOnlyModeId
  split <;> decide

/-- An untrusted project is no reason to show full access. -/
theorem or_untrusted_eq_fullAccess {found : Option SessionModeId} {config : Config} :
    found.or (untrustedReadOnlyModeId config) = some "full-access" ↔
      found = some "full-access" := by
  cases found with
  | none => simpa using untrusted_ne_fullAccess config
  | some found => simp

/-- Only the profile without a sandbox names the full-access mode. -/
theorem sessionModeIdForActiveProfile_fullAccess {profileId : String} :
    sessionModeIdForActiveProfile profileId = some "full-access" ↔
      profileId = codexDangerNoSandboxProfileId := by
  unfold sessionModeIdForActiveProfile
  constructor
  · intro h
    split at h
    · exact absurd h (by decide)
    split at h
    · exact absurd h (by decide)
    split at h
    next hid => exact hid
    · cases h
  · rintro rfl
    rfl

/-- **The shown preset.** A session without a sandbox is shown as full access
exactly when it is to never ask and no other profile is named active. -/
theorem currentSessionModeId_fullAccess_iff {codex : Codex} (hpresets : PresetTable codex)
    {config : Config} (hprofile : config.permissions.permissionProfile = .disabled) :
    currentSessionModeId codex config = some "full-access" ↔ inFullAccess config = true := by
  unfold currentSessionModeId inFullAccess
  cases hactive : config.permissions.activePermissionProfile with
  | some activeProfile =>
    dsimp only
    rw [or_untrusted_eq_fullAccess, Option.bind_eq_some_iff]
    simp only [Option.all_some, Bool.and_eq_true, decide_eq_true_eq]
    constructor
    · rintro ⟨modeId, hmode, hmatch⟩
      obtain rfl := (modeIdIfApprovalMatches_eq hmatch).1
      exact ⟨(modeIdIfApprovalMatches_fullAccess hpresets config).mp hmatch,
        sessionModeIdForActiveProfile_fullAccess.mp hmode⟩
    · rintro ⟨hpolicy, hid⟩
      exact ⟨"full-access", sessionModeIdForActiveProfile_fullAccess.mpr hid,
        (modeIdIfApprovalMatches_fullAccess hpresets config).mpr hpolicy⟩
  | none =>
    simp only [Option.all_none, Bool.and_true, decide_eq_true_eq]
    split
    next preset hfind =>
      -- A preset that fits policy and profile is full access: no other has no sandbox.
      have hmem := List.mem_of_find?_eq_some hfind
      have hmatch := List.find?_some hfind
      simp only [Bool.and_eq_true, decide_eq_true_eq] at hmatch
      have hid := hpresets.sandbox preset hmem (hmatch.2.trans hprofile)
      have hpolicy := (approvalMatches_fullAccess hpresets hmem hid).mp hmatch.1
      simp [hid, hpolicy]
    next =>
      rw [or_untrusted_eq_fullAccess]
      unfold semanticSessionModeIdForPermissionProfile
      simp only [hprofile, Option.bind_some]
      exact modeIdIfApprovalMatches_fullAccess hpresets config

/-! ## What is approved unasked -/

/-- Codex accepted an op that grants something. -/
def newGrant (r r' : Running) : Bool :=
  (r'.actor.world.accepted.drop r.actor.world.accepted.length).any fun o => grants o.1

/-- A step approves without asking: the actor deals with an event by itself, or
an op that grants was accepted and no response of the client is what it answers. -/
def approvesUnasked (codex : Codex) (r : Running) (l : Label) (r' : Running) : Bool :=
  match l with
  | .resolution => false
  | .event event =>
    (r.actor.maybeAutoApprovePermissionRequest codex (autoApproval event.msg)).1 || newGrant r r'
  | _ => newGrant r r'

/-- An exec or a patch approval is put to an actor without a sandbox. -/
def approvalWithoutSandbox (r : Running) : Label → Bool
  | .event event =>
    r.actor.config.permissions.permissionProfile = .disabled &&
      (autoApproval event.msg).isSome
  | _ => false

theorem grants_of_no_target {op : Op} (h : op.approvalTarget = none) : grants op = false := by
  cases op <;> first | rfl | cases h

/-- Codex accepted ops in a step, and none of them grants anything. -/
def AcceptsNoGrant (a a' : ThreadActor) : Prop :=
  ∃ ops : List (Op × String), a'.desk.accepted = a.desk.accepted ++ ops ∧
    ∀ o ∈ ops, grants o.1 = false

theorem AcceptsNoGrant.of_eq {a a' : ThreadActor} (h : a'.desk.accepted = a.desk.accepted) :
    AcceptsNoGrant a a' :=
  ⟨[], by rw [h, List.append_nil], by simp⟩

theorem AcceptsNoGrant.of_one {a a' : ThreadActor} {op : Op} {id : String}
    (h : a'.desk.accepted = a.desk.accepted ++ [(op, id)]) (hop : grants op = false) :
    AcceptsNoGrant a a' :=
  ⟨_, h, by simpa using hop⟩

theorem AcceptsNoGrant.of_no_target {a a' : ThreadActor} {ops : List (Op × String)}
    (h : a'.desk.accepted = a.desk.accepted ++ ops)
    (hops : ∀ o ∈ ops, Op.approvalTarget o.1 = none) : AcceptsNoGrant a a' :=
  ⟨ops, h, fun o ho => grants_of_no_target (hops o ho)⟩

/-- A step that handles no response accepts a grant only for an actor without a
sandbox. -/
theorem acceptsNoGrant_effect {codex : Codex} {r r' : Running} {l : Label}
    (hl : l ≠ .resolution) (he : Effect codex r.actor r'.actor l) :
    AcceptsNoGrant r.actor r'.actor ∨ approvalWithoutSandbox r l = true := by
  cases he with
  | unresolved | resolved | resolutionFailed => exact absurd rfl hl
  | autoApproved hprofile happroval =>
    right
    simp [approvalWithoutSandbox, hprofile, happroval]
  | quiet hops h => exact .inl (.of_no_target (congrArg Desk.accepted h) hops)
  | shown _ _ hops h => exact .inl (.of_no_target (congrArg Desk.accepted h) hops)
  | opened hops hop h =>
    refine .inl (.of_no_target ((congrArg Desk.accepted h).trans (List.append_assoc ..)) ?_)
    intro o ho
    rcases List.mem_append.mp ho with ho | ho
    · exact hops o ho
    · rw [List.mem_singleton.mp ho]
      exact hop
  | answered _ hop _ h =>
    exact .inl (.of_one (congrArg Desk.accepted h) (grants_of_no_target hop))
  | cancelled hm _ h =>
    refine .inl (.of_one (congrArg Desk.accepted h) ?_)
    rcases hm with ⟨_, rfl⟩ | ⟨_, rfl⟩ <;> rfl
  | declined _ _ _ _ h => exact .inl (.of_one (congrArg Desk.accepted h) rfl)
  | unrouted _ _ h | passed _ _ h =>
    exact .inl (.of_eq ((congrArg Desk.accepted h).trans (Desk.settle_accepted ..)))
  | finished _ _ h => exact .inl (.of_eq ((congrArg Desk.accepted h).trans (Desk.settle_accepted ..)))
  | idle _ h | answerRefused _ h | cancelRefused _ _ h | replayed h | registered _ _ h
  | autoApprovalRefused _ _ _ h | requested _ _ _ h | contentFailed _ _ _ _ h
  | declineRefused _ _ _ _ h | collected h | responded _ _ h | sent _ _ h | closed _ h =>
    exact .inl (.of_eq ((congrArg Desk.accepted h).trans rfl))

theorem newGrant_of_acceptsNoGrant {r r' : Running} (h : AcceptsNoGrant r.actor r'.actor) :
    newGrant r r' = false := by
  obtain ⟨ops, hops, hno⟩ := h
  have haccepted : r'.actor.world.accepted = r.actor.world.accepted ++ ops := hops
  unfold newGrant
  rw [haccepted, List.drop_left, List.any_eq_false]
  intro o ho
  rw [hno o ho]
  decide

/-- The actor deals with an event by itself when it has no sandbox and the event
is an exec or a patch approval. -/
theorem maybeAutoApprove_iff (codex : Codex) (r : Running) (event : Event) :
    (r.actor.maybeAutoApprovePermissionRequest codex (autoApproval event.msg)).1 =
      approvalWithoutSandbox r (.event event) := by
  unfold ThreadActor.maybeAutoApprovePermissionRequest approvalWithoutSandbox
  split
  next h => simp [h]
  next h =>
    rw [not_not.mp h]
    cases happroval : autoApproval event.msg <;> simp [happroval]

/-- A step approves unasked exactly when it puts an exec or a patch approval to
an actor without a sandbox. -/
theorem approvesUnasked_eq {codex : Codex} {r r' : Running} {l : Label}
    (h : r.step codex l = some r') :
    approvesUnasked codex r l r' = approvalWithoutSandbox r l := by
  have hgrant : l ≠ .resolution →
      newGrant r r' = true → approvalWithoutSandbox r l = true := by
    intro hl hnew
    rcases acceptsNoGrant_effect hl (step_effect h) with hno | hyes
    · rw [newGrant_of_acceptsNoGrant hno] at hnew
      cases hnew
    · exact hyes
  cases l with
  | resolution => rfl
  | event event =>
    show ((r.actor.maybeAutoApprovePermissionRequest codex (autoApproval event.msg)).1 ||
      newGrant r r') = _
    rw [maybeAutoApprove_iff]
    cases hnew : newGrant r r' with
    | false => rw [Bool.or_false]
    | true => rw [hgrant (by simp) hnew, Bool.true_or]
  | message | noResolution | wake | collect | respond | send | closeReceiver | modelsChanged =>
    exact Bool.eq_false_iff.mpr fun hnew => Bool.false_ne_true (hgrant (by simp) hnew)

/-! ## Runs -/

/-- An actor approves without asking only when it is shown as full access. -/
def ApprovesInFullAccess (codex : Codex) (r : Running) (l : Label) (r' : Running) : Prop :=
  approvesUnasked codex r l r' = true →
    currentSessionModeId codex r.actor.config = some "full-access"

instance (codex : Codex) (r r' : Running) (l : Label) :
    Decidable (ApprovesInFullAccess codex r l r') :=
  inferInstanceAs (Decidable (_ → _))

/-- An exec or a patch approval is put to an actor without a sandbox only when
its policy is to never ask and it has no other active profile. -/
def sandboxedUnlessFullAccess (r : Running) (l : Label) (_ : Running) : Bool :=
  !approvalWithoutSandbox r l || inFullAccess r.actor.config

theorem approvesInFullAccess_iff {codex : Codex} (hpresets : PresetTable codex)
    {r r' : Running} {l : Label} (h : r.step codex l = some r') :
    ApprovesInFullAccess codex r l r' ↔ sandboxedUnlessFullAccess r l r' = true := by
  unfold ApprovesInFullAccess sandboxedUnlessFullAccess
  rw [approvesUnasked_eq h, Bool.or_eq_true, Bool.not_eq_true']
  cases happroval : approvalWithoutSandbox r l with
  | false => simp
  | true =>
    have hprofile : r.actor.config.permissions.permissionProfile = .disabled := by
      unfold approvalWithoutSandbox at happroval
      split at happroval
      · simp only [Bool.and_eq_true, decide_eq_true_eq] at happroval
        exact happroval.1
      · cases happroval
    rw [currentSessionModeId_fullAccess_iff hpresets hprofile]
    simp

/-- **Automatic approval.** From every initial configuration, on every run: every
op submitted without asking is submitted in full access, exactly when every exec
or patch approval put to the actor without a sandbox finds it in full access. -/
theorem autoApproval_inFullAccess_iff {codex : Codex} (hpresets : PresetTable codex)
    (config : Config) (models : ModelsManager) (labels : List Label) :
    Along (Running.step codex) (ApprovesInFullAccess codex) (.start config models) labels ↔
      Along (Running.step codex) (sandboxedUnlessFullAccess · · · = true)
        (.start config models) labels := by
  refine along_congr ?_ labels _
  intro r l r' h
  exact approvesInFullAccess_iff hpresets h

/-- A session that chose the full-access preset is asked to approve a call. -/
def approvalInFullAccess : List Label :=
  [.message (.setMode "full-access"), .collect] ++ firstApproval

theorem autoApproval_inFullAccess_iff_chosen :
    Along (Running.step Codex.sample) (ApprovesInFullAccess Codex.sample)
      (.start Config.sample ModelsManager.sample) approvalInFullAccess :=
  (autoApproval_inFullAccess_iff presetTable_sample Config.sample ModelsManager.sample
    approvalInFullAccess).mpr (by decide +kernel)

/-- A session that is to ask on request, without a sandbox. -/
def noSandboxOnRequest : Config :=
  { Config.sample with
    permissions :=
      { Config.sample.permissions with sessionSnapshot := .free ⟨.disabled, none⟩ } }

/-- **A session without a sandbox that is to ask on request does not ask**: it
approves the first call, and is shown as no preset at all. -/
theorem autoApproval_outsideFullAccess :
    ¬ Along (Running.step Codex.sample) (ApprovesInFullAccess Codex.sample)
        (.start noSandboxOnRequest ModelsManager.sample) firstApproval ∧
      (exec (Running.step Codex.sample)
        (.start noSandboxOnRequest ModelsManager.sample) firstApproval).map
          (fun r => (r.actor.world.accepted.getLast?.map (fun o => grants o.1),
            currentSessionModeId Codex.sample r.actor.config)) = some (some true, none) := by
  decide +kernel

end CodexAcp.Thread
