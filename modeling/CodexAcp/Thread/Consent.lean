import CodexAcp.Boundary.OptionFidelity
import CodexAcp.Thread.FailClosed
import CodexAcp.Thread.ResponseIntegrity

/-!
# The consent that is asked for is the consent that is given

The client tells options apart by their kind: it draws them accordingly, and may answer
some by itself. So an op has to go as far as the kind of the option says: a single
permission is not to become a lasting one, nor a refusal a permission.

An answer can resolve another request than its own (`Thread.ResponseIntegrity`), with
another option map. What it then answers is bounded by the ids alone: all kinds of requests
share the ids of their options, and an id stands for the same consent in all of them
(`consentOfId`).

> `consents_kept`: in every run, an answer that selects an option of its request submits
> one op at most, of this option's kind or refusing; and it refuses against the option only if it
> resolved the request of another task, or if there was nothing to permit.
-/

namespace CodexAcp.Thread

open CodexAcp.Lib CodexAcp.Protocol CodexAcp.Boundary

/-! ## Consent -/

/-- How far a decision goes. -/
def decisionConsent : ReviewDecision → PermissionOptionKind
  | .approved => .allowOnce
  | .approvedExecpolicyAmendment _ | .approvedForSession => .allowAlways
  | .networkPolicyAmendment amendment =>
    match amendment.action with
    | .allow => .allowAlways
    | .deny => .rejectAlways
  | .denied _ | .abort | .timedOut => .rejectOnce

/-- How far an op goes that answers an approval. -/
def consent (op : Op) : Option PermissionOptionKind :=
  match op with
  | .execApproval _ _ decision | .patchApproval _ decision => some (decisionConsent decision)
  | .requestPermissionsResponse _ response =>
    if response.permissions = {} then some .rejectOnce
    else
      match response.scope with
      | .turn => some .allowOnce
      | .session => some .allowAlways
  | .resolveElicitation _ _ .accept _ _ =>
    some (if (persistence op).isSome then .allowAlways else .allowOnce)
  | .resolveElicitation .. => some .rejectOnce
  | _ => none

/-- What the id of an option stands for, in every kind of request. -/
def consentOfId (optionId : String) : PermissionOptionKind :=
  if optionId = PermissionOptionId.approved then .allowOnce
  else if optionId = PermissionOptionId.networkPolicyAmendmentDeny then .rejectAlways
  else if optionId = PermissionOptionId.approvedForSession ∨
      optionId = PermissionOptionId.approvedExecpolicyAmendment ∨
      optionId = PermissionOptionId.networkPolicyAmendmentAllow ∨
      optionId = McpApproval.allowAlwaysOptionId then .allowAlways
  else .rejectOnce

/-- There is nothing to permit. -/
def AsksForNothing (request : PendingPermissionRequest) : Prop :=
  ∃ callId, request = .requestPermissions callId {}

/-! ## The options -/

theorem decisionConsent_eq (decision : ReviewDecision) :
    decisionConsent decision = consentOfId (presentedOptionId decision) := by
  cases decision with
  | networkPolicyAmendment amendment =>
    obtain ⟨host, action⟩ := amendment
    cases action <;> rfl
  | approved | approvedExecpolicyAmendment | approvedForSession | denied | abort | timedOut => rfl

theorem execPermissionOption_kind (network : Option NetworkApprovalContext)
    (permissions : Option AdditionalPermissionProfile) (decision : ReviewDecision) :
    (execPermissionOption network permissions decision).permissionOption.kind =
      decisionConsent decision := by
  cases decision with
  | networkPolicyAmendment amendment =>
    obtain ⟨host, action⟩ := amendment
    cases action <;> rfl
  | approved | approvedExecpolicyAmendment | approvedForSession | denied | abort | timedOut => rfl

/-- The options of an elicitation, with what they answer. -/
theorem mcpApprovalOptions_consent {session always : Bool} {option : PermissionOption}
    {resolution : McpElicitationResolution}
    (h : (option, resolution) ∈ mcpApprovalOptions session always) (serverName : String)
    (id : RequestId) :
    option.kind = consentOfId option.optionId ∧
      consent (.resolveElicitation serverName id resolution.action resolution.content
        resolution.metadata) = some (consentOfId option.optionId) := by
  have hmem : (option, resolution) ∈ mcpApprovalOptions true true := by
    revert h
    unfold mcpApprovalOptions
    cases session <;> cases always <;> simp <;> tauto
  have hoptions : mcpApprovalOptions true true = [_, _, _, _] := rfl
  rw [hoptions] at hmem
  simp only [List.mem_cons, List.not_mem_nil, or_false, Prod.mk.injEq] at hmem
  rcases hmem with ⟨rfl, rfl⟩ | ⟨rfl, rfl⟩ | ⟨rfl, rfl⟩ | ⟨rfl, rfl⟩ <;> exact ⟨by decide, rfl⟩

/-- **A presented option** has the kind its id stands for. -/
theorem presented_kind {codex : Codex} {msg : EventMsg} {request : PermissionInteractionRequest}
    (hbuilt : approvalRequest codex msg = some request) {option : PermissionOption}
    (hoption : option ∈ request.permissionRequest.options) :
    option.kind = consentOfId option.optionId := by
  rcases approvalRequest_inv hbuilt with ⟨event, interaction, rfl, hinteraction, rfl⟩ |
    ⟨event, rfl, rfl⟩ | ⟨event, rfl, rfl⟩ | ⟨event, supported, rfl, hsupported, rfl⟩
  · rw [execApprovalInteraction_eq_ok hinteraction] at hoption
    obtain ⟨decision, _, rfl⟩ := List.mem_map.mp hoption
    rw [execPermissionOption_kind, execPermissionOption_permissionOption, decisionConsent_eq]
  · have hoptions : option ∈ [_, _] := hoption
    simp only [List.mem_cons, List.not_mem_nil, or_false] at hoptions
    rcases hoptions with rfl | rfl <;> decide
  · have hoptions : option ∈ [_, _, _] := hoption
    simp only [List.mem_cons, List.not_mem_nil, or_false] at hoptions
    rcases hoptions with rfl | rfl | rfl <;> decide
  · obtain ⟨_, _, _, _, _, hoptions, _⟩ := supported_inv hsupported
    have hpresented : option ∈ supported.permissionRequest.options := hoption
    rw [hoptions] at hpresented
    obtain ⟨entry, hentry, rfl⟩ := List.mem_map.mp hpresented
    exact (mcpApprovalOptions_consent hentry event.serverName event.id).1

/-! ## The ops -/

/-- The op that answers a selection goes as far as the selected id stands for, or refuses; and it
refuses only what was not presented, or if there is nothing to permit. -/
def OpConsents (request : PermissionInteractionRequest) (optionId : String) : Prop :=
  consent (request.pendingRequest.op (.selected optionId)) = some (consentOfId optionId) ∨
    consent (request.pendingRequest.op (.selected optionId)) = some .rejectOnce ∧
      ((∀ option ∈ request.permissionRequest.options, option.optionId ≠ optionId) ∨
        AsksForNothing request.pendingRequest)

theorem execApproval_consents {codex : Codex} {event : ExecApprovalRequestEvent}
    {interaction : ExecApprovalInteraction}
    (hinteraction : execApprovalInteraction codex event = .ok interaction) (optionId : String) :
    OpConsents interaction.request optionId := by
  unfold OpConsents
  rw [execApproval_op hinteraction, reviewDecision_selected]
  cases hlookup : (Dict.collect (event.effectiveAvailableDecisions.map fun d =>
      (presentedOptionId d, d))).lookup optionId with
  | some decision =>
    left
    obtain ⟨decision', _, heq⟩ := List.mem_map.mp (Dict.mem_of_lookup_collect hlookup)
    obtain ⟨rfl, rfl⟩ := Prod.mk.inj heq
    exact congrArg some (decisionConsent_eq decision')
  | none =>
    right
    refine ⟨rfl, .inl ?_⟩
    rw [Dict.lookup_collect_eq_none, List.forall_mem_map] at hlookup
    rw [execApprovalInteraction_eq_ok hinteraction]
    intro option hoption
    obtain ⟨decision, hdecision, rfl⟩ := List.mem_map.mp hoption
    rw [execPermissionOption_permissionOption]
    exact hlookup decision hdecision

theorem patchApproval_consents (event : ApplyPatchApprovalRequestEvent) (optionId : String) :
    OpConsents (patchApprovalInteraction event).request optionId := by
  by_cases happroved : optionId = PermissionOptionId.approved
  · subst happroved
    exact .inl rfl
  by_cases hdenied : optionId = PermissionOptionId.denied
  · subst hdenied
    exact .inl rfl
  have hnone : (patchApprovalInteraction event).optionMap.lookup optionId = none := by
    refine Dict.lookup_collect_eq_none.mpr ?_
    simp only [List.forall_mem_cons]
    exact ⟨Ne.symm happroved, Ne.symm hdenied, List.forall_mem_nil _⟩
  have hop : (patchApprovalInteraction event).request.pendingRequest.op (.selected optionId) =
      .patchApproval event.callId
        (((patchApprovalInteraction event).optionMap.lookup optionId).getD .abort) := rfl
  right
  rw [hop, hnone]
  refine ⟨rfl, .inl ?_⟩
  exact List.forall_mem_cons.mpr ⟨Ne.symm happroved,
    List.forall_mem_singleton.mpr (Ne.symm hdenied)⟩

/-- Who asks for no permission is refused, whatever is selected. -/
theorem consent_nothing (callId optionId : String) :
    consent (.requestPermissionsResponse callId
      (requestPermissionsResponse (.selected optionId) {})) = some .rejectOnce := by
  unfold requestPermissionsResponse
  simp only
  split
  · rfl
  · split <;> rfl

theorem requestPermissions_consents (event : RequestPermissionsEvent) (optionId : String) :
    OpConsents (requestPermissionsInteraction event).request optionId := by
  have hop : (requestPermissionsInteraction event).request.pendingRequest.op
      (.selected optionId) = .requestPermissionsResponse event.callId
        (requestPermissionsResponse (.selected optionId) event.permissions) := rfl
  unfold OpConsents
  rw [hop]
  by_cases hnothing : event.permissions = {}
  · right
    refine ⟨?_, .inr ⟨event.callId, ?_⟩⟩
    · rw [hnothing]
      exact consent_nothing event.callId optionId
    · rw [← hnothing]
      rfl
  by_cases hsession : optionId = PermissionOptionId.approvedForSession
  · subst hsession
    exact .inl (if_neg hnothing)
  by_cases hturn : optionId = PermissionOptionId.approved
  · subst hturn
    exact .inl (if_neg hnothing)
  have hdenied : requestPermissionsResponse (.selected optionId) event.permissions =
      deniedRequestPermissionsResponse := by
    rw [requestPermissionsResponse, if_neg hsession, if_neg hturn]
  rw [hdenied]
  by_cases habort : optionId = PermissionOptionId.abort
  · subst habort
    exact .inl rfl
  · refine .inr ⟨rfl, .inl ?_⟩
    exact List.forall_mem_cons.mpr ⟨Ne.symm hsession, List.forall_mem_cons.mpr
      ⟨Ne.symm hturn, List.forall_mem_singleton.mpr (Ne.symm habort)⟩⟩

theorem mcpElicitation_consents {event : ElicitationRequestEvent}
    {supported : SupportedMcpElicitationPermissionRequest}
    (hsupported : buildSupportedMcpElicitationPermissionRequest event = some supported)
    (optionId : String) : OpConsents (supported.request event) optionId := by
  obtain ⟨_, _, _, _, _, hoptions, hmap⟩ := supported_inv hsupported
  have hop : (supported.request event).pendingRequest.op (.selected optionId) =
      .resolveElicitation event.serverName event.id
        ((supported.optionMap.lookup optionId).getD .cancel).action
        ((supported.optionMap.lookup optionId).getD .cancel).content
        ((supported.optionMap.lookup optionId).getD .cancel).metadata := rfl
  unfold OpConsents
  rw [hop]
  cases hlookup : supported.optionMap.lookup optionId with
  | some resolution =>
    left
    rw [hmap] at hlookup
    obtain ⟨⟨option, resolution'⟩, hentry, heq⟩ :=
      List.mem_map.mp (Dict.mem_of_lookup_collect hlookup)
    obtain ⟨rfl, rfl⟩ := Prod.mk.inj heq
    exact (mcpApprovalOptions_consent hentry event.serverName event.id).2
  | none =>
    right
    refine ⟨rfl, .inl ?_⟩
    rw [hmap, Dict.lookup_collect_eq_none, List.forall_mem_map] at hlookup
    intro option hoption
    have hpresented : option ∈ supported.permissionRequest.options := hoption
    rw [hoptions] at hpresented
    obtain ⟨entry, hentry, rfl⟩ := List.mem_map.mp hpresented
    exact hlookup entry hentry

/-- **An op** that answers a selection goes as far as it may, whatever was asked. -/
theorem consent_op {codex : Codex} {msg : EventMsg} {request : PermissionInteractionRequest}
    (hbuilt : approvalRequest codex msg = some request) (optionId : String) :
    OpConsents request optionId := by
  rcases approvalRequest_inv hbuilt with ⟨event, interaction, rfl, hinteraction, rfl⟩ |
    ⟨event, rfl, rfl⟩ | ⟨event, rfl, rfl⟩ | ⟨event, supported, rfl, hsupported, rfl⟩
  · exact execApproval_consents hinteraction optionId
  · exact patchApproval_consents event optionId
  · exact requestPermissions_consents event optionId
  · exact mcpElicitation_consents hsupported optionId

/-! ## The run -/

/-- Every task puts a request to the user that was built from an event. -/
structure Asked (codex : Codex) (d : Desk) : Prop where
  built : ∀ (n : TaskId) (t : Task), d.tasks[n]? = some t →
    ∃ msg, approvalRequest codex msg = some t.request
  filed : Filed d
  queued : ∀ n message, (n, message) ∈ d.resolutions → ∃ t, d.tasks[n]? = some t
  submissionId : ∀ sid p, d.submissions.lookup sid = some p → p.submissionId = sid

theorem asked_start (codex : Codex) (config : Config) (models : ModelsManager) :
    Asked codex (Running.start config models).actor.desk where
  built n t h := by cases h
  filed sid key i h := by cases h
  queued n message h := by cases h
  submissionId sid p h := by cases h

theorem asked_filesNothing {codex : Codex} {d d' : Desk} (hd : Asked codex d)
    (h : FilesNothing d d') : Asked codex d' where
  built n t ht := by
    obtain ⟨u, hu, _, hrequest, _⟩ := h.tasks.2 n t ht
    rw [hrequest]
    exact hd.built n u hu
  filed := h.filed hd.filed
  queued n message hmessage := by
    have hbefore : ∃ t, d.tasks[n]? = some t := by
      cases h.resolutions n message hmessage with
      | task ht => exact ⟨_, ht⟩
      | queued hq => exact hd.queued n _ hq
    obtain ⟨t, ht⟩ := hbefore
    obtain ⟨t', ht', _⟩ := h.exists_task ht
    exact ⟨t', ht'⟩
  submissionId sid p hp := (h.submissions sid p hp).1

theorem asked_request {codex : Codex} {d : Desk} {sid : String} {p : PromptState}
    {request : PermissionInteractionRequest} {msg : EventMsg} (hd : Asked codex d)
    (hp : d.submissions.lookup sid = some p) (hask : approvalRequest codex msg = some request) :
    Asked codex (d.request sid p request) where
  built n t ht := by
    rcases getElem?_request ht with ⟨_, _, hrequest⟩ | ⟨u, hu, _, hrequest, _⟩
    · exact ⟨msg, by rw [hrequest, hask]⟩
    · rw [hrequest]
      exact hd.built n u hu
  filed := filed_request hp hd.filed
  queued n message hmessage := by
    obtain ⟨t, ht⟩ := hd.queued n message hmessage
    obtain ⟨t', ht', _⟩ := @exists_task_request _ sid p request _ _ ht
    exact ⟨t', ht'⟩
  submissionId := submissionId_request hp hd.submissionId

theorem asked_step {codex : Codex} {r r' : Running} {l : Label} (hd : Asked codex r.actor.desk)
    (hstep : r.step codex l = some r') : Asked codex r'.actor.desk := by
  rcases step_files hd.submissionId hstep with
    hnothing | ⟨event, request, p, _, _, hask, hp, hdesk⟩
  · exact asked_filesNothing hd hnothing
  · rw [hdesk]
    exact asked_request hd hp hask

/-- The answer resolves the request of another task than the one it comes from. -/
def Crosses (r : Running) (n : TaskId) (message : PermissionRequestResolved) : Prop :=
  ∃ i, r.actor.desk.interaction message.submissionId message.requestKey = some i ∧ i.task ≠ n

/-- An answer that selects an option the user was shown submits one op at most, of the kind
of this option. If not, it refuses, and its request was not the one resolved, or was for
nothing. -/
def ConsentKept (r : Running) (l : Label) (r' : Running) : Prop :=
  l = .resolution → ∀ n message rest, r.actor.world.resolutions = (n, message) :: rest →
    ∃ t, r.actor.world.tasks[n]? = some t ∧ ∀ option ∈ t.request.permissionRequest.options,
      message.response = .ok ⟨.selected option.optionId⟩ →
      ∃ ops, r'.actor.world.accepted = r.actor.world.accepted ++ ops ∧ ops.length ≤ 1 ∧
        ∀ o ∈ ops, consent o.1 = some option.kind ∨ consent o.1 = some .rejectOnce ∧
          (Crosses r n message ∨ AsksForNothing t.request.pendingRequest)

theorem consentKept_step {codex : Codex} {r r' : Running} {l : Label}
    (hd : Asked codex r.actor.desk) (hstep : r.step codex l = some r') : ConsentKept r l r' := by
  rintro rfl n message rest hqueue
  obtain ⟨t, ht⟩ := hd.queued n message (by
    rw [show r.actor.desk.resolutions = _ from hqueue]
    exact List.mem_cons_self ..)
  obtain ⟨ops, haccepted, hone, hops⟩ := resolved_ops hstep hqueue
  refine ⟨t, ht, fun option hoption hselected => ⟨ops, haccepted, hone, fun o ho => ?_⟩⟩
  obtain ⟨i, response, hi, hresponse, hop⟩ := hops o ho
  rw [hop]
  rw [hselected] at hresponse
  cases hresponse
  obtain ⟨msg, hbuilt⟩ := hd.built n t ht
  obtain ⟨t', ht', hrequest⟩ := hd.filed _ _ i hi
  obtain ⟨msg', hbuilt'⟩ := hd.built _ t' ht'
  rw [presented_kind hbuilt hoption, ← hrequest]
  refine (consent_op hbuilt' option.optionId).imp_right fun ⟨hrefused, hwhy⟩ => ⟨hrefused, ?_⟩
  by_cases htask : i.task = n
  · -- its own request: the option was presented, so there was nothing to permit
    rw [htask] at ht'
    obtain rfl : t = t' := Option.some_inj.mp (ht.symm.trans ht')
    exact .inr (hwhy.resolve_left fun hother => hother option hoption rfl)
  · exact .inl ⟨i, hi, htask⟩

/-- **Consent** is kept in every run, whatever the client answers and when. -/
theorem consents_kept (codex : Codex) (config : Config) (models : ModelsManager)
    (labels : List Label) :
    Along (Running.step codex) ConsentKept (.start config models) labels := by
  refine @along_of_invariant _ _ _ (fun _ _ _ => True) _ (fun r => Asked codex r.actor.desk) ?_
    labels _ (asked_start codex config models) (along_of_forall (fun _ _ _ => trivial) _ _)
  intro r l r' hd _ hstep
  exact ⟨asked_step hd hstep, consentKept_step hd hstep⟩

end CodexAcp.Thread
