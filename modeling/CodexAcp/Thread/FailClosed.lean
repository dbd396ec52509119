import CodexAcp.Thread.Submission

/-!
# Fail-closed approvals

Four option builders decide what the user sees and four resolvers decide what
an outcome becomes. This file shows that they agree on what a grant is:

> `resolve_failClosed`: whatever the event a request was built from, whatever
> the response, an op that grants something answers a response that selected an
> option presented in that very request with an allowing kind, and a persistent
> grant was offered by the event's own meta.

Each builder is taken on its own first. For a review (`exec`, `patch`) and for
an elicitation the option map is collected from the same list as the presented
options, so a granting entry of the map comes with its presented option
(`execPermissionOption_allows`, `mcpApprovalOptions_allows`); for a permissions
request the two approving ids are presented as they stand.
-/

namespace CodexAcp.Thread

open CodexAcp.Lib CodexAcp.Protocol CodexAcp.Boundary

/-! ## Grants -/

/-- A decision that lets something happen, now or from now on. -/
def grantsDecision : ReviewDecision → Bool
  | .approved | .approvedExecpolicyAmendment _ | .approvedForSession => true
  | .networkPolicyAmendment amendment => amendment.action = .allow
  | .denied _ | .abort | .timedOut => false

/-- An op that grants what an approval asked for. -/
def grants : Op → Bool
  | .execApproval _ _ decision => grantsDecision decision
  | .patchApproval _ decision => grantsDecision decision
  | .requestPermissionsResponse _ response => response.permissions ≠ {}
  | .resolveElicitation _ _ decision _ _ => decision = .accept
  | _ => false

/-- The persistence an elicitation's answer asks for, read from its metadata. -/
def persistence : Op → Option String
  | .resolveElicitation _ _ _ _ (some metadata) =>
    metadata.asObject.bind fun members =>
      (Json.get members McpApproval.persistKey).bind Json.asStr
  | _ => none

/-- The user can choose `optionId` in this request, and is told that it allows. -/
def PresentsAllow (request : PermissionInteractionRequest) (optionId : String) : Prop :=
  ∃ option ∈ request.permissionRequest.options,
    option.optionId = optionId ∧ option.kind.isAllow = true

/-- The meta of an elicitation offers to persist the answer as `persist`: it
names it, or lists it among others. -/
def OffersPersistence (msg : EventMsg) (persist : String) : Prop :=
  ∃ event metadata message members, msg = .elicitationRequest event ∧
    event.request = .form (some metadata) message ∧ metadata.asObject = some members ∧
    (Json.get members McpApproval.persistKey = some (.string persist) ∨
      ∃ values, Json.get members McpApproval.persistKey = some (.array values) ∧
        ∃ value ∈ values, value.asStr = some persist)

/-- What resolving a request may submit: an op that grants answers the choice of
an allowing option, and an op that persists also grants and was offered to. -/
def FailClosed (msg : EventMsg) (request : PermissionInteractionRequest)
    (response : PermissionResult) (result : Except Error (Option Op)) : Prop :=
  ∀ op, result = .ok (some op) →
    (grants op = true →
      ∃ optionId, response = .ok ⟨.selected optionId⟩ ∧ PresentsAllow request optionId) ∧
    (∀ persist, persistence op = some persist →
      grants op = true ∧ OffersPersistence msg persist)

/-! ## Reviews -/

/-- A review grants only through an entry of its option map. -/
theorem reviewDecision_grants {outcome : RequestPermissionOutcome}
    {optionMap : Dict String ReviewDecision}
    (h : grantsDecision (reviewDecision outcome optionMap) = true) :
    ∃ optionId decision, outcome = .selected optionId ∧
      optionMap.lookup optionId = some decision ∧ grantsDecision decision = true := by
  cases outcome with
  | cancelled => cases h
  | unknown => cases h
  | selected optionId =>
    cases hd : optionMap.lookup optionId with
    | none => rw [reviewDecision, hd] at h; cases h
    | some decision =>
      rw [reviewDecision, hd] at h
      exact ⟨optionId, decision, rfl, hd, h⟩

/-- The option of a granting decision is presented as an allowing one, under
the id the option map files the decision under. -/
theorem execPermissionOption_allows {network : Option NetworkApprovalContext}
    {permissions : Option AdditionalPermissionProfile} {decision : ReviewDecision}
    (h : grantsDecision (execPermissionOption network permissions decision).decision = true) :
    (execPermissionOption network permissions decision).permissionOption.optionId
        = (execPermissionOption network permissions decision).optionId ∧
      (execPermissionOption network permissions decision).permissionOption.kind.isAllow
        = true := by
  cases decision with
  | approved | approvedExecpolicyAmendment | approvedForSession => exact ⟨rfl, rfl⟩
  | denied | abort | timedOut => cases h
  | networkPolicyAmendment amendment =>
    obtain ⟨host, action⟩ := amendment
    cases action with
    | allow => exact ⟨rfl, rfl⟩
    -- A rule that denies is an option like the others, but grants nothing.
    | deny => simp [execPermissionOption, grantsDecision] at h

theorem exec_presentsAllow {codex : Codex} {event : ExecApprovalRequestEvent}
    {interaction : ExecApprovalInteraction} {optionId : String} {decision : ReviewDecision}
    (hbuilt : execApprovalInteraction codex event = .ok interaction)
    (hmap : interaction.optionMap.lookup optionId = some decision)
    (hgrant : grantsDecision decision = true) :
    PresentsAllow interaction.request optionId := by
  unfold execApprovalInteraction at hbuilt
  split at hbuilt
  next => cases hbuilt
  next =>
    cases hbuilt
    obtain ⟨option, hoption, hpair⟩ := List.mem_map.mp (Dict.mem_of_lookup_collect hmap)
    obtain ⟨offered, hoffered, rfl⟩ := List.mem_map.mp hoption
    cases hpair
    have hallow := execPermissionOption_allows hgrant
    exact ⟨_, List.mem_map.mpr ⟨_, hoption, rfl⟩, hallow⟩

theorem patch_presentsAllow {event : ApplyPatchApprovalRequestEvent} {optionId : String}
    {decision : ReviewDecision}
    (hmap : (patchApprovalInteraction event).optionMap.lookup optionId = some decision)
    (hgrant : grantsDecision decision = true) :
    PresentsAllow (patchApprovalInteraction event).request optionId := by
  have hmem := Dict.mem_of_lookup_collect hmap
  simp only [List.mem_cons, List.not_mem_nil, or_false, Prod.mk.injEq] at hmem
  rcases hmem with ⟨rfl, rfl⟩ | ⟨rfl, rfl⟩
  · exact ⟨_, List.mem_cons_self .., rfl, rfl⟩
  · cases hgrant

/-! ## Permissions requests -/

theorem requestPermissions_presentsAllow {event : RequestPermissionsEvent}
    {outcome : RequestPermissionOutcome}
    (h : (requestPermissionsResponse outcome event.permissions).permissions ≠ {}) :
    ∃ optionId, outcome = .selected optionId ∧
      PresentsAllow (requestPermissionsInteraction event).request optionId := by
  cases outcome with
  | cancelled => exact absurd rfl h
  | unknown => exact absurd rfl h
  | selected optionId =>
    refine ⟨optionId, rfl, ?_⟩
    by_cases hsession : optionId = PermissionOptionId.approvedForSession
    · exact ⟨_, List.mem_cons_self .., hsession.symm, rfl⟩
    by_cases hturn : optionId = PermissionOptionId.approved
    · exact ⟨_, List.mem_cons_of_mem _ (List.mem_cons_self ..), hturn.symm, rfl⟩
    · rw [requestPermissionsResponse, if_neg hsession, if_neg hturn] at h
      exact absurd rfl h

/-! ## Elicitations -/

/-- An elicitation resolves to an entry of its option map, or to a cancel. -/
theorem mcpElicitationResolution_cases (outcome : RequestPermissionOutcome)
    (optionMap : Dict String McpElicitationResolution) :
    mcpElicitationResolution outcome optionMap = .cancel ∨
      ∃ optionId, outcome = .selected optionId ∧
        optionMap.lookup optionId = some (mcpElicitationResolution outcome optionMap) := by
  cases outcome with
  | cancelled => exact Or.inl rfl
  | unknown => exact Or.inl rfl
  | selected optionId =>
    cases hr : optionMap.lookup optionId with
    | none => left; rw [mcpElicitationResolution, hr]; rfl
    | some resolution =>
      right
      exact ⟨optionId, rfl, by rw [mcpElicitationResolution, hr]; rfl⟩

/-- Every option but cancel is presented as an allowing one, and persists
nothing, or the session if that was offered, or for good if that was offered. -/
theorem mcpApprovalOptions_cases {session always : Bool} {option : PermissionOption}
    {resolution : McpElicitationResolution}
    (hmem : (option, resolution) ∈ mcpApprovalOptions session always) :
    resolution = .cancel ∨ (option.kind.isAllow = true ∧
      (resolution = .accept ∨
        (session = true ∧ resolution = .acceptWithPersist McpApproval.persistSession) ∨
        (always = true ∧ resolution = .acceptWithPersist McpApproval.persistAlways))) := by
  simp only [mcpApprovalOptions, List.mem_append] at hmem
  rcases hmem with ((hallow | hsession) | halways) | hcancel
  · cases List.mem_singleton.mp hallow
    exact Or.inr ⟨rfl, Or.inl rfl⟩
  · split at hsession
    next h =>
      cases List.mem_singleton.mp hsession
      exact Or.inr ⟨rfl, Or.inr (Or.inl ⟨h, rfl⟩)⟩
    next => cases hsession
  · split at halways
    next h =>
      cases List.mem_singleton.mp halways
      exact Or.inr ⟨rfl, Or.inr (Or.inr ⟨h, rfl⟩)⟩
    next => cases halways
  · cases List.mem_singleton.mp hcancel
    exact Or.inl rfl

/-- The session is offered exactly as the meta says. -/
theorem mcpToolApprovalPersistModes_session {members : List (String × Json)}
    (h : (mcpToolApprovalPersistModes members).1 = true) :
    Json.get members McpApproval.persistKey = some (.string McpApproval.persistSession) ∨
      ∃ values, Json.get members McpApproval.persistKey = some (.array values) ∧
        ∃ value ∈ values, value.asStr = some McpApproval.persistSession := by
  unfold mcpToolApprovalPersistModes at h
  split at h
  next persist hget =>
    have hpersist : persist = McpApproval.persistSession := of_decide_eq_true h
    exact Or.inl (by rw [hget, hpersist])
  next values hget =>
    obtain ⟨value, hmem, hvalue⟩ := List.any_eq_true.mp h
    exact Or.inr ⟨values, hget, value, hmem, of_decide_eq_true hvalue⟩
  next => cases h

/-- A grant for good is offered exactly as the meta says. -/
theorem mcpToolApprovalPersistModes_always {members : List (String × Json)}
    (h : (mcpToolApprovalPersistModes members).2 = true) :
    Json.get members McpApproval.persistKey = some (.string McpApproval.persistAlways) ∨
      ∃ values, Json.get members McpApproval.persistKey = some (.array values) ∧
        ∃ value ∈ values, value.asStr = some McpApproval.persistAlways := by
  unfold mcpToolApprovalPersistModes at h
  split at h
  next persist hget =>
    have hpersist : persist = McpApproval.persistAlways := of_decide_eq_true h
    exact Or.inl (by rw [hget, hpersist])
  next values hget =>
    obtain ⟨value, hmem, hvalue⟩ := List.any_eq_true.mp h
    exact Or.inr ⟨values, hget, value, hmem, of_decide_eq_true hvalue⟩
  next => cases h

/-- The parts of a supported elicitation: its meta, and the options built from it. -/
theorem supported_inv {event : ElicitationRequestEvent}
    {supported : SupportedMcpElicitationPermissionRequest}
    (h : buildSupportedMcpElicitationPermissionRequest event = some supported) :
    ∃ metadata message members, event.request = .form (some metadata) message ∧
      metadata.asObject = some members ∧
      supported.permissionRequest.options =
        (mcpApprovalOptions (mcpToolApprovalPersistModes members).1
          (mcpToolApprovalPersistModes members).2).map (·.1) ∧
      supported.optionMap = Dict.collect
        ((mcpApprovalOptions (mcpToolApprovalPersistModes members).1
          (mcpToolApprovalPersistModes members).2).map fun o => (o.1.optionId, o.2)) := by
  unfold buildSupportedMcpElicitationPermissionRequest at h
  split at h
  next metadata message hrequest =>
    split at h
    next => cases h
    next members hobject =>
      split at h
      next => cases h
      next =>
        cases h
        exact ⟨metadata, message, members, hrequest, hobject, rfl, rfl⟩
  next => cases h

/-- The one fact about elicitations: an answer that is not a cancel comes from a
presented allowing option, and what it persists was offered. -/
theorem elicitation_failClosed {event : ElicitationRequestEvent}
    {supported : SupportedMcpElicitationPermissionRequest} (outcome : RequestPermissionOutcome)
    (hbuilt : buildSupportedMcpElicitationPermissionRequest event = some supported) :
    mcpElicitationResolution outcome supported.optionMap = .cancel ∨
      ((∃ optionId, outcome = .selected optionId ∧
          PresentsAllow (supported.request event) optionId) ∧
        (mcpElicitationResolution outcome supported.optionMap = .accept ∨
          ∃ persist, mcpElicitationResolution outcome supported.optionMap
              = .acceptWithPersist persist ∧
            OffersPersistence (.elicitationRequest event) persist)) := by
  obtain ⟨metadata, message, members, hrequest, hobject, hoptions, hmap⟩ := supported_inv hbuilt
  rcases mcpElicitationResolution_cases outcome supported.optionMap with
    hcancel | ⟨optionId, houtcome, hlookup⟩
  · exact Or.inl hcancel
  rw [hmap] at hlookup
  obtain ⟨⟨option, resolution⟩, hmem, hpair⟩ :=
    List.mem_map.mp (Dict.mem_of_lookup_collect hlookup)
  rw [← hmap] at hpair
  obtain ⟨hid, hresolution⟩ := Prod.mk.inj hpair
  simp only at hid hresolution
  rw [← hresolution]
  rcases mcpApprovalOptions_cases hmem with hcancel | ⟨hallow, hpersist⟩
  · exact Or.inl hcancel
  refine Or.inr ⟨⟨optionId, houtcome, option, ?_, hid, hallow⟩, ?_⟩
  · show option ∈ supported.permissionRequest.options
    rw [hoptions]
    exact List.mem_map.mpr ⟨_, hmem, rfl⟩
  · rcases hpersist with h | ⟨hmode, h⟩ | ⟨hmode, h⟩
    · exact Or.inl h
    · exact Or.inr ⟨_, h, event, metadata, message, members, rfl, hrequest, hobject,
        mcpToolApprovalPersistModes_session hmode⟩
    · exact Or.inr ⟨_, h, event, metadata, message, members, rfl, hrequest, hobject,
        mcpToolApprovalPersistModes_always hmode⟩

/-- What a resolution becomes carries the resolution's action and metadata. -/
theorem grants_elicitation (serverName : String) (requestId : RequestId)
    (resolution : McpElicitationResolution) :
    grants (.resolveElicitation serverName requestId resolution.action resolution.content
      resolution.metadata) = true ↔ resolution.action = .accept :=
  decide_eq_true_iff

/-! ## All four kinds -/

/-- The event a permission request was built from, by kind. -/
theorem approvalRequest_inv {codex : Codex} {msg : EventMsg}
    {request : PermissionInteractionRequest} (h : approvalRequest codex msg = some request) :
    (∃ event interaction, msg = .execApprovalRequest event ∧
        execApprovalInteraction codex event = .ok interaction ∧ request = interaction.request) ∨
      (∃ event, msg = .applyPatchApprovalRequest event ∧
        request = (patchApprovalInteraction event).request) ∨
      (∃ event, msg = .requestPermissions event ∧
        request = (requestPermissionsInteraction event).request) ∨
      (∃ event supported, msg = .elicitationRequest event ∧
        buildSupportedMcpElicitationPermissionRequest event = some supported ∧
        request = supported.request event) := by
  unfold approvalRequest at h
  split at h
  next event =>
    split at h
    next interaction hinteraction =>
      cases h
      exact Or.inl ⟨event, interaction, rfl, hinteraction, rfl⟩
    next => cases h
  next event =>
    cases h
    exact Or.inr (Or.inl ⟨event, rfl, rfl⟩)
  next event =>
    cases h
    exact Or.inr (Or.inr (Or.inl ⟨event, rfl, rfl⟩))
  next event =>
    obtain ⟨supported, hsupported, rfl⟩ := Option.map_eq_some_iff.mp h
    exact Or.inr (Or.inr (Or.inr ⟨event, supported, rfl, hsupported, rfl⟩))
  next => cases h

/-- An outcome of a request of any kind: what its op grants was chosen from the
options presented, and what it persists was offered. -/
theorem op_failClosed {codex : Codex} {msg : EventMsg} {request : PermissionInteractionRequest}
    (hbuilt : approvalRequest codex msg = some request) (outcome : RequestPermissionOutcome) :
    (grants (request.pendingRequest.op outcome) = true →
      ∃ optionId, outcome = .selected optionId ∧ PresentsAllow request optionId) ∧
    (∀ persist, persistence (request.pendingRequest.op outcome) = some persist →
      grants (request.pendingRequest.op outcome) = true ∧ OffersPersistence msg persist) := by
  rcases approvalRequest_inv hbuilt with ⟨event, interaction, rfl, hinteraction, rfl⟩ |
    ⟨event, rfl, rfl⟩ | ⟨event, rfl, rfl⟩ | ⟨event, supported, rfl, hsupported, rfl⟩
  · refine ⟨fun h => ?_, fun persist h => by cases h⟩
    obtain ⟨optionId, decision, houtcome, hmap, hgrant⟩ := reviewDecision_grants h
    exact ⟨optionId, houtcome, exec_presentsAllow hinteraction hmap hgrant⟩
  · refine ⟨fun h => ?_, fun persist h => by cases h⟩
    obtain ⟨optionId, decision, houtcome, hmap, hgrant⟩ := reviewDecision_grants h
    exact ⟨optionId, houtcome, patch_presentsAllow hmap hgrant⟩
  · refine ⟨fun h => ?_, fun persist h => by cases h⟩
    exact requestPermissions_presentsAllow (of_decide_eq_true h)
  · have hop : (supported.request event).pendingRequest.op outcome =
        .resolveElicitation event.serverName event.id
          (mcpElicitationResolution outcome supported.optionMap).action
          (mcpElicitationResolution outcome supported.optionMap).content
          (mcpElicitationResolution outcome supported.optionMap).metadata := rfl
    rw [hop, grants_elicitation]
    rcases elicitation_failClosed outcome hsupported with
      hcancel | ⟨hselected, haccept | ⟨persist, hpersist, hoffers⟩⟩
    · rw [hcancel]
      exact ⟨fun h => (by cases h), fun persist h => (by cases h)⟩
    · rw [haccept]
      exact ⟨fun _ => hselected, fun persist h => by cases h⟩
    · rw [hpersist]
      refine ⟨fun _ => hselected, fun persist' h => ⟨rfl, ?_⟩⟩
      cases h
      exact hoffers

/-- **Fail-closed approvals.** Whatever the event a pending request was built
from and whatever the response it resolves with, the op it submits, if it
submits one, grants only what the user chose among the options presented, and
persists only what the event offered. -/
theorem resolve_failClosed {codex : Codex} {msg : EventMsg}
    {request : PermissionInteractionRequest} {interactions : PermissionInteractions}
    {requestKey : String} {task : TaskId}
    (hbuilt : approvalRequest codex msg = some request)
    (hpending : interactions.lookup requestKey = some ⟨request.pendingRequest, task⟩)
    (response : PermissionResult) :
    FailClosed msg request response
      (PermissionInteractions.resolve requestKey response interactions).1 := by
  intro op hop
  unfold PermissionInteractions.resolve at hop
  rw [hpending] at hop
  cases response with
  | error err => cases hop
  | ok response =>
    cases hop
    have h := op_failClosed hbuilt response.outcome
    refine ⟨fun hgrant => ?_, h.2⟩
    obtain ⟨optionId, houtcome, hpresents⟩ := h.1 hgrant
    exact ⟨optionId, by rw [← houtcome], hpresents⟩

/-- The user allows a patch: the op grants, and was chosen from the request. -/
theorem resolve_failClosed_patch :
    FailClosed (.applyPatchApprovalRequest ⟨"call", "turn"⟩)
      (patchApprovalInteraction ⟨"call", "turn"⟩).request
      (.ok ⟨.selected PermissionOptionId.approved⟩)
      (PermissionInteractions.resolve "patch:call" (.ok ⟨.selected PermissionOptionId.approved⟩)
        (AList.singleton "patch:call"
          ⟨(patchApprovalInteraction ⟨"call", "turn"⟩).request.pendingRequest, 0⟩)).1 :=
  @resolve_failClosed Codex.sample _ _ _ _ 0 rfl rfl _

end CodexAcp.Thread
