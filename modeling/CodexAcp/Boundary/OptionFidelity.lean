import CodexAcp.Boundary.Permission

/-!
# The decision behind an option

An exec approval presents one option for each decision the event offers, and
keeps a map from option ids to decisions for the answer. The id of an option is
a constant of its decision's kind, so two decisions of one kind with different
payloads (two amendments of the execution policy, two of the network policy)
are presented under one id, and the map keeps the later one.

> `selected_decision_iff`: the option at a position answers the decision at this
> position exactly when no later decision of the event has its id, or the last
> that has is the same decision; an outcome that is none of the options aborts.
> `options_faithful_iff`: all options do, exactly when decisions with one id are equal.
-/

namespace CodexAcp.Boundary

open CodexAcp.Lib CodexAcp.Protocol

/-- The id a decision is presented under. -/
def presentedOptionId (decision : ReviewDecision) : String :=
  (execPermissionOption none none decision).optionId

/-- The context of a request names the options; their ids stay. -/
theorem execPermissionOption_optionId (networkApprovalContext : Option NetworkApprovalContext)
    (additionalPermissions : Option AdditionalPermissionProfile) (decision : ReviewDecision) :
    (execPermissionOption networkApprovalContext additionalPermissions decision).optionId =
      presentedOptionId decision := by
  unfold presentedOptionId
  cases decision with
  | networkPolicyAmendment amendment =>
    obtain ⟨host, action⟩ := amendment
    cases action <;> rfl
  | approved | approvedExecpolicyAmendment | approvedForSession | denied | abort | timedOut => rfl

/-- An option is presented under its own id. -/
theorem execPermissionOption_permissionOption
    (networkApprovalContext : Option NetworkApprovalContext)
    (additionalPermissions : Option AdditionalPermissionProfile) (decision : ReviewDecision) :
    (execPermissionOption networkApprovalContext additionalPermissions
        decision).permissionOption.optionId = presentedOptionId decision := by
  unfold presentedOptionId
  cases decision with
  | networkPolicyAmendment amendment =>
    obtain ⟨host, action⟩ := amendment
    cases action <;> rfl
  | approved | approvedExecpolicyAmendment | approvedForSession | denied | abort | timedOut => rfl

/-- An option keeps the decision it was made for. -/
theorem execPermissionOption_decision (networkApprovalContext : Option NetworkApprovalContext)
    (additionalPermissions : Option AdditionalPermissionProfile) (decision : ReviewDecision) :
    (execPermissionOption networkApprovalContext additionalPermissions decision).decision =
      decision := by
  cases decision with
  | networkPolicyAmendment amendment =>
    obtain ⟨host, action⟩ := amendment
    cases action <;> rfl
  | approved | approvedExecpolicyAmendment | approvedForSession | denied | abort | timedOut => rfl

/-! ## The interaction of an event -/

section

variable {codex : Codex} {event : ExecApprovalRequestEvent} {interaction : ExecApprovalInteraction}

/-- What an interaction holds that was made for an event. -/
theorem execApprovalInteraction_eq_ok (h : execApprovalInteraction codex event = .ok interaction) :
    interaction =
      { requestKey := execApprovalRequestKey event.callId
        approvalId := event.approvalId.getD event.callId
        turnId := event.turnId
        optionMap := Dict.collect
          (event.effectiveAvailableDecisions.map fun d => (presentedOptionId d, d))
        activeCommand :=
          { callId := event.callId
            toolCallId := event.callId
            terminalOutput := (parseCommandToolCall codex event.parsedCmd event.cwd).terminalOutput }
        permissionRequest :=
          { toolCallId := event.callId
            options := event.effectiveAvailableDecisions.map fun d =>
              (execPermissionOption event.networkApprovalContext event.additionalPermissions
                d).permissionOption } } := by
  unfold execApprovalInteraction at h
  split at h
  next => cases h
  next =>
    cases h
    simp only [buildExecPermissionOptions, List.map_map, Function.comp_def,
      execPermissionOption_optionId, execPermissionOption_decision]

/-- The op an outcome is answered with carries what the option map holds. -/
theorem execApproval_op (h : execApprovalInteraction codex event = .ok interaction)
    (outcome : RequestPermissionOutcome) :
    interaction.request.pendingRequest.op outcome =
      .execApproval (event.approvalId.getD event.callId) (some event.turnId)
        (reviewDecision outcome (Dict.collect
          (event.effectiveAvailableDecisions.map fun d => (presentedOptionId d, d)))) := by
  rw [execApprovalInteraction_eq_ok h]
  rfl

/-- The option at a position is presented under the id of the decision there. -/
theorem presented_option (h : execApprovalInteraction codex event = .ok interaction) {i : Nat}
    {decision : ReviewDecision} (hi : event.effectiveAvailableDecisions[i]? = some decision) :
    ∃ option, interaction.permissionRequest.options[i]? = some option ∧
      option.optionId = presentedOptionId decision := by
  rw [execApprovalInteraction_eq_ok h]
  refine ⟨_, ?_, execPermissionOption_permissionOption event.networkApprovalContext
    event.additionalPermissions decision⟩
  show (event.effectiveAvailableDecisions.map _)[i]? = _
  rw [List.getElem?_map, hi]
  rfl

/-- The id of a presented option is the id of an available decision. -/
theorem presentedOptionId_mem (h : execApprovalInteraction codex event = .ok interaction)
    {decision : ReviewDecision} (hmem : decision ∈ event.effectiveAvailableDecisions) :
    ∃ option ∈ interaction.permissionRequest.options,
      option.optionId = presentedOptionId decision := by
  obtain ⟨i, hi⟩ := List.mem_iff_getElem?.mp hmem
  obtain ⟨option, hoption, hid⟩ := presented_option h hi
  exact ⟨option, List.mem_of_getElem? hoption, hid⟩

end

/-! ## Last one wins -/

/-- No available decision after `decision` has its option id. -/
def LastWithItsId (decisions : List ReviewDecision) (decision : ReviewDecision) : Prop :=
  ∃ before after, decisions = before ++ decision :: after ∧
    ∀ d ∈ after, presentedOptionId d ≠ presentedOptionId decision

/-- The map from option ids finds a decision that is the last one with its id. -/
theorem lookup_optionMap {decisions : List ReviewDecision} {decision : ReviewDecision} :
    (Dict.collect (decisions.map fun d => (presentedOptionId d, d))).lookup
        (presentedOptionId decision) = some decision ↔ LastWithItsId decisions decision := by
  rw [Dict.lookup_collect_eq_some]
  constructor
  · rintro ⟨before, after, h, hafter⟩
    obtain ⟨before', rest, rfl, _, hrest⟩ := List.map_eq_append_iff.mp h
    obtain ⟨d, after', rfl, hd, hafter'⟩ := List.map_eq_cons_iff.mp hrest
    obtain ⟨_, rfl⟩ := Prod.mk.inj hd
    refine ⟨before', after', rfl, ?_⟩
    rw [← hafter', List.forall_mem_map] at hafter
    exact hafter
  · rintro ⟨before, after, rfl, hafter⟩
    refine ⟨_, _, List.map_append, ?_⟩
    rw [List.forall_mem_map]
    exact hafter

/-- What the map finds under the id of an available decision is one with the same id. -/
theorem exists_lookup_optionMap {decisions : List ReviewDecision} {decision : ReviewDecision}
    (h : decision ∈ decisions) :
    ∃ d ∈ decisions, presentedOptionId d = presentedOptionId decision ∧
      (Dict.collect (decisions.map fun d => (presentedOptionId d, d))).lookup
        (presentedOptionId decision) = some d := by
  cases hlookup : (Dict.collect (decisions.map fun d => (presentedOptionId d, d))).lookup
      (presentedOptionId decision) with
  | none =>
    rw [Dict.lookup_collect_eq_none, List.forall_mem_map] at hlookup
    exact absurd rfl (hlookup decision h)
  | some d =>
    obtain ⟨d', hd', heq⟩ := List.mem_map.mp (Dict.mem_of_lookup_collect hlookup)
    obtain ⟨hid, rfl⟩ := Prod.mk.inj heq
    exact ⟨d', hd', hid, rfl⟩

/-! ## Fidelity -/

theorem reviewDecision_selected (optionId : String) (optionMap : Dict String ReviewDecision) :
    reviewDecision (.selected optionId) optionMap = (optionMap.lookup optionId).getD .abort := rfl

/-- An outcome that is none of the presented options aborts. -/
theorem reviewDecision_other {decisions : List ReviewDecision}
    {outcome : RequestPermissionOutcome}
    (hother : ∀ d ∈ decisions, outcome ≠ .selected (presentedOptionId d)) :
    reviewDecision outcome (Dict.collect (decisions.map fun d => (presentedOptionId d, d))) =
      .abort := by
  cases outcome with
  | selected optionId =>
    have hnone : (Dict.collect (decisions.map fun d => (presentedOptionId d, d))).lookup
        optionId = none := by
      rw [Dict.lookup_collect_eq_none, List.forall_mem_map]
      intro d hd hid
      exact hother d hd (congrArg _ hid.symm)
    rw [reviewDecision_selected, hnone]
    rfl
  | cancelled | unknown => rfl

/-- Selecting the option of a decision answers this decision when it is the last with its id. -/
theorem reviewDecision_presented {decisions : List ReviewDecision} {decision : ReviewDecision}
    (hmem : decision ∈ decisions) :
    reviewDecision (.selected (presentedOptionId decision))
        (Dict.collect (decisions.map fun d => (presentedOptionId d, d))) = decision ↔
      LastWithItsId decisions decision := by
  obtain ⟨d, _, _, hd⟩ := exists_lookup_optionMap hmem
  rw [reviewDecision_selected, ← lookup_optionMap, hd, Option.getD_some, Option.some_inj]

/-- **One option.** The option at a position answers the decision at this position
exactly when the decision is the last one with its id; every other outcome aborts. -/
theorem selected_decision_iff (codex : Codex) (event : ExecApprovalRequestEvent)
    (interaction : ExecApprovalInteraction)
    (h : execApprovalInteraction codex event = .ok interaction) :
    (∀ (i : Nat) (decision : ReviewDecision),
      event.effectiveAvailableDecisions[i]? = some decision →
        ∃ option, interaction.permissionRequest.options[i]? = some option ∧
          (interaction.request.pendingRequest.op (.selected option.optionId) =
              .execApproval (event.approvalId.getD event.callId) (some event.turnId) decision ↔
            LastWithItsId event.effectiveAvailableDecisions decision)) ∧
    (∀ outcome : RequestPermissionOutcome,
      (∀ option ∈ interaction.permissionRequest.options,
        outcome ≠ .selected option.optionId) →
        interaction.request.pendingRequest.op outcome =
          .execApproval (event.approvalId.getD event.callId) (some event.turnId) .abort) := by
  constructor
  · intro i decision hi
    obtain ⟨option, hoption, hid⟩ := presented_option h hi
    refine ⟨option, hoption, ?_⟩
    rw [execApproval_op h, hid, ← reviewDecision_presented (List.mem_of_getElem? hi)]
    simp
  · intro outcome hother
    rw [execApproval_op h, reviewDecision_other]
    intro d hd hselected
    obtain ⟨option, hoption, hid⟩ := presentedOptionId_mem h hd
    exact hother option hoption (by rw [hselected, hid])

/-- An event that offers to allow `npm`, and to allow `cargo`, for good. -/
def twoAmendments : ExecApprovalRequestEvent :=
  { callId := "call", approvalId := none, turnId := "turn", cwd := "/work"
    parsedCmd := [.unknown "npm install && cargo build"]
    networkApprovalContext := none, additionalPermissions := none
    effectiveAvailableDecisions :=
      [.approvedExecpolicyAmendment ⟨["npm"]⟩, .approvedExecpolicyAmendment ⟨["cargo"]⟩, .abort] }

/-- The option of the second amendment is faithful. -/
theorem selected_decision_twoAmendments :
    ∃ interaction, execApprovalInteraction Codex.sample twoAmendments = .ok interaction ∧
      ∃ option, interaction.permissionRequest.options[1]? = some option ∧
        interaction.request.pendingRequest.op (.selected option.optionId) =
          .execApproval "call" (some "turn") (.approvedExecpolicyAmendment ⟨["cargo"]⟩) := by
  refine ⟨_, rfl, ?_⟩
  obtain ⟨option, hoption, hiff⟩ :=
    (selected_decision_iff Codex.sample twoAmendments _ rfl).1 1 _ rfl
  refine ⟨option, hoption, hiff.mpr ⟨[.approvedExecpolicyAmendment ⟨["npm"]⟩], [.abort], rfl, ?_⟩⟩
  decide

/-- The option of the first amendment, `npm`, answers the second one. -/
theorem first_amendment_answers_second :
    ¬ ∀ (codex : Codex) (event : ExecApprovalRequestEvent)
      (interaction : ExecApprovalInteraction),
      execApprovalInteraction codex event = .ok interaction →
        ∀ (i : Nat) (decision : ReviewDecision) (option : PermissionOption),
          event.effectiveAvailableDecisions[i]? = some decision →
          interaction.permissionRequest.options[i]? = some option →
            interaction.request.pendingRequest.op (.selected option.optionId) =
              .execApproval (event.approvalId.getD event.callId) (some event.turnId)
                decision := by
  intro h
  obtain ⟨_, _, hdecision⟩ :=
    Op.execApproval.inj (h Codex.sample twoAmendments _ rfl 0 _ _ rfl rfl)
  revert hdecision
  decide

/-- **All options** are faithful exactly when decisions with one id are equal. -/
theorem options_faithful_iff {codex : Codex} {event : ExecApprovalRequestEvent}
    {interaction : ExecApprovalInteraction}
    (h : execApprovalInteraction codex event = .ok interaction) :
    (∀ (i : Nat) (decision : ReviewDecision) (option : PermissionOption),
      event.effectiveAvailableDecisions[i]? = some decision →
      interaction.permissionRequest.options[i]? = some option →
        interaction.request.pendingRequest.op (.selected option.optionId) =
          .execApproval (event.approvalId.getD event.callId) (some event.turnId) decision) ↔
      ∀ d ∈ event.effectiveAvailableDecisions, ∀ d' ∈ event.effectiveAvailableDecisions,
        presentedOptionId d = presentedOptionId d' → d = d' := by
  constructor
  · intro hfaithful d hd d' hd' hid
    -- both options have the same id, so they are answered with the same decision
    have hop : ∀ x ∈ event.effectiveAvailableDecisions,
        reviewDecision (.selected (presentedOptionId x)) (Dict.collect
          (event.effectiveAvailableDecisions.map fun d => (presentedOptionId d, d))) = x := by
      intro x hx
      obtain ⟨i, hi⟩ := List.mem_iff_getElem?.mp hx
      obtain ⟨option, hoption, hoptionId⟩ := presented_option h hi
      have hx := hfaithful i x option hi hoption
      rw [execApproval_op h, hoptionId] at hx
      simpa using hx
    rw [← hop d hd, ← hop d' hd', hid]
  · intro hequal i decision option hi hoption
    have hmem := List.mem_of_getElem? hi
    obtain ⟨option', hoption', hid⟩ := presented_option h hi
    obtain rfl : option = option' := Option.some_inj.mp (hoption.symm.trans hoption')
    obtain ⟨d, hd, hdid, hlookup⟩ := exists_lookup_optionMap hmem
    rw [execApproval_op h, hid, reviewDecision_selected, hlookup, Option.getD_some,
      hequal d hd decision hmem hdid]

end CodexAcp.Boundary
