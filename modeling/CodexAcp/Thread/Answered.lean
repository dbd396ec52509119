import CodexAcp.Thread.Ledger

/-!
# No approval is left unanswered

The code loses a request where a step fails or displaces one (`lossless` lists
the places); elsewhere it does not:

> `approvals_settled`: in every state of every run whose steps are lossless,
> every entry of the ledger is settled, and every accepted op that answers an
> approval is on it.
> `approval_lost`: a run on which the second approval of a call displaces the
> first, which is then never answered.
-/

namespace CodexAcp.Thread

open CodexAcp.Lib CodexAcp.Protocol CodexAcp.Boundary

/-! ## Where an approval can be lost -/

/-- An approval event is answered with an accepted op, or put to the user in a
submission the actor holds, under a free key. -/
def losslessEvent (codex : Codex) (a : ThreadActor) (event : Event) : Bool :=
  match (if a.config.permissions.permissionProfile = .disabled then autoApproval event.msg
    else none) with
  | some approval => (codex.submit a.world.calls approval.intoOp).isOk
  | none =>
    (a.submissions.lookup event.id).isSome &&
      match approvalRequest codex event.msg with
      | some request => (a.desk.interaction event.id request.requestKey).isNone
      | none =>
        match event.msg with
        | .elicitationRequest elicitation =>
          (codex.submit a.world.calls
            (unsupportedMcpElicitationDecline elicitation.serverName elicitation.id)).isOk
        -- The request could not be rendered.
        | _ => false

/-- The response is one, and the op it becomes is accepted. -/
def losslessResolution (codex : Codex) (a : ThreadActor) : Bool :=
  match a.world.resolutions with
  | [] => true
  | (_, message) :: _ =>
    match a.desk.interaction message.submissionId message.requestKey, message.response with
    | none, _ => true
    | some _, .error _ => false
    | some i, .ok response =>
      (codex.submit a.world.calls (i.request.op response.outcome)).isOk

/-- The op that releases every approval is accepted, or nothing is filed. -/
def losslessStop (codex : Codex) (a : ThreadActor) (op : Op) : Bool :=
  (codex.submit a.world.calls op).isOk ||
    (Dict.values a.submissions).all fun p => p.permissionInteractions.entries.isEmpty

/-- No step drops a filed request without an answer. -/
def lossless (codex : Codex) (r : Running) : Label → Bool
  | .event event => (askedTarget event.msg).isNone || losslessEvent codex r.actor event
  | .resolution => losslessResolution codex r.actor
  | .message .cancel => losslessStop codex r.actor .interrupt
  | .message .shutdown => losslessStop codex r.actor .shutdown
  | .collect => r.actor.submissions.entries.all fun e =>
    e.2.isActive r.actor.world || r.actor.state.pendingSubmissionId = some e.1 ||
      e.2.permissionInteractions.entries.isEmpty
  | _ => true

theorem exists_of_isOk {ε α : Type} {r : Except ε α} (h : r.isOk = true) : ∃ a, r = .ok a := by
  cases r with
  | ok a => exact ⟨a, rfl⟩
  | error e => cases h

/-- When the op of a stop is refused, a lossless step had nothing to drop. -/
theorem nothing_filed_of_refused {codex : Codex} {a : ThreadActor} {op : Op} {err : String}
    (hsubmit : codex.submit a.world.calls op = .error err)
    (h : losslessStop codex a op = true) (sid key : String) : a.desk.interaction sid key = none := by
  unfold losslessStop at h
  rw [hsubmit] at h
  unfold Desk.interaction
  cases hp : a.desk.submissions.lookup sid with
  | none => rfl
  | some p => exact lookup_of_isEmpty (List.all_eq_true.mp h p (Dict.mem_values.mpr ⟨sid, hp⟩)) key

/-- A lossless approval event that goes to its submission finds it, a free key
if it is put to the user, and an accepted op if it is declined. -/
theorem losslessEvent_submission {codex : Codex} {r : Running} {event : Event}
    (hask : (askedTarget event.msg).isSome) (hroute : GoesToSubmission r.actor event)
    (h : lossless codex r (.event event) = true) :
    (r.actor.submissions.lookup event.id).isSome ∧
      match approvalRequest codex event.msg with
      | some request => r.actor.desk.interaction event.id request.requestKey = none
      | none => ∃ elicitation id, event.msg = .elicitationRequest elicitation ∧
          codex.submit r.actor.world.calls
            (unsupportedMcpElicitationDecline elicitation.serverName elicitation.id) = .ok id := by
  unfold lossless at h
  dsimp only at h
  rw [Option.isNone_eq_false_iff.mpr hask, Bool.false_or] at h
  unfold losslessEvent at h
  have hnone : (if r.actor.config.permissions.permissionProfile = .disabled then
      autoApproval event.msg else none) = none := by
    split
    next hprofile => exact hroute hprofile
    next => rfl
  rw [hnone] at h
  obtain ⟨hheld, hfiled⟩ := Bool.and_eq_true_iff.mp h
  refine ⟨hheld, ?_⟩
  cases hrequest : approvalRequest codex event.msg with
  | some request =>
    rw [hrequest] at hfiled
    exact Option.isNone_iff_eq_none.mp hfiled
  | none =>
    rw [hrequest] at hfiled
    dsimp only at hfiled ⊢
    split at hfiled
    next elicitation hmsg =>
      obtain ⟨id, hid⟩ := exists_of_isOk hfiled
      exact ⟨elicitation, id, hmsg, hid⟩
    next => cases hfiled

theorem losslessEvent_autoApproved {codex : Codex} {r : Running} {event : Event}
    {approval : ActorAutoApproval}
    (hprofile : r.actor.config.permissions.permissionProfile = .disabled)
    (happroval : autoApproval event.msg = some approval)
    (h : lossless codex r (.event event) = true) :
    ∃ id, codex.submit r.actor.world.calls approval.intoOp = .ok id := by
  have hask : (askedTarget event.msg).isSome := by
    rw [autoApproval_target happroval]
    cases approval <;> rfl
  unfold lossless at h
  dsimp only at h
  rw [Option.isNone_eq_false_iff.mpr hask, Bool.false_or] at h
  unfold losslessEvent at h
  rw [if_pos hprofile, happroval] at h
  exact exists_of_isOk h

theorem losslessResolution_ok {codex : Codex} {a : ThreadActor} {n : TaskId}
    {message : PermissionRequestResolved} {rest : List (TaskId × PermissionRequestResolved)}
    {i : PendingPermissionInteraction} (hqueue : a.world.resolutions = (n, message) :: rest)
    (hi : a.desk.interaction message.submissionId message.requestKey = some i)
    (h : losslessResolution codex a = true) :
    ∃ response id, message.response = .ok response ∧
      codex.submit a.world.calls (i.request.op response.outcome) = .ok id := by
  unfold losslessResolution at h
  rw [hqueue] at h
  dsimp only at h
  rw [hi] at h
  cases hresponse : message.response with
  | error err =>
    rw [hresponse] at h
    cases h
  | ok response =>
    rw [hresponse] at h
    obtain ⟨id, hid⟩ := exists_of_isOk h
    exact ⟨response, id, rfl, hid⟩

theorem audit_step {codex : Codex} {s s' : Audited} {l : Label}
    (hd : Audit s.running.actor.desk s.ledger) (hlossless : lossless codex s.running l = true)
    (hfresh : s.running.freshIds s'.running = true) (hstep : s.step codex l = some s') :
    Audit s'.running.actor.desk s'.ledger := by
  obtain ⟨r', hr, rfl⟩ := Option.map_eq_some_iff.mp hstep
  dsimp only at hfresh ⊢
  generalize hdesk : s.running.actor.desk = d at hd ⊢
  generalize hdesk' : r'.actor.desk = d' at ⊢
  cases step_effect hr with
  | quiet hops h =>
    rw [hdesk, hdesk'] at h
    subst h
    exact audit_same hd _ (Nat.le_refl _) hops rfl fun _ _ => rfl
  | idle hl h =>
    rw [hdesk, hdesk'] at h
    subst h
    rcases hl with rfl | rfl | ⟨_, rfl⟩ <;> exact hd
  | @opened m ops op id hops hop h =>
    have hfree := lookup_of_freshIds hfresh (congrArg Desk.accepted h)
    rw [hdesk] at hfree
    rw [hdesk, hdesk'] at h
    exact audit_opened hd _ hops hop hfree rfl (by rw [h]) (by rw [h]) (by rw [h])
  | shown _ _ hops h =>
    rw [hdesk, hdesk'] at h
    subst h
    exact audit_same hd _ (Nat.le_refl _) hops rfl fun _ _ => rfl
  | @answered m sid id op p hpending hop hp h =>
    rw [hdesk, hdesk'] at h
    rw [hdesk] at hp
    have hops : ∀ o ∈ [(op, id)], Op.approvalTarget o.1 = none := List.forall_mem_singleton.mpr hop
    refine audit_same hd _ (by rw [h]) hops (by rw [h]) ?_
    intro sid' key
    rw [← interaction_ensure (d := d) sid]
    exact interaction_set (q := p.addResponseTx d.waiters) (by rw [h]) hp rfl sid' key
  | answerRefused hpending h =>
    rw [hdesk, hdesk'] at h
    subst h
    exact audit_same hd _ (Nat.le_refl _) no_ops (List.append_nil _).symm
      fun _ _ => interaction_ensure _ _ _
  | @cancelled m op id hm hsubmit h =>
    rw [hdesk, hdesk'] at h
    subst h
    have hops : acceptedSince d (d.clear.accept op id) = [(op, id)].map (·.1) :=
      acceptedSince_append rfl
    have hstops : stopsTurns op = true := by
      rcases hm with ⟨_, rfl⟩ | ⟨_, rfl⟩ <;> rfl
    have hop : op.approvalTarget = none := by
      rcases hm with ⟨_, rfl⟩ | ⟨_, rfl⟩ <;> rfl
    refine audit_stopped hd hop fun e => ?_
    rw [hops, List.map_singleton, List.any_cons, hstops]
    rfl
  | @cancelRefused m op err hm hsubmit h =>
    rw [hdesk, hdesk'] at h
    subst h
    have hempty : ∀ sid key, d.interaction sid key = none := by
      rw [← hdesk]
      refine nothing_filed_of_refused hsubmit ?_
      rcases hm with ⟨rfl, rfl⟩ | ⟨rfl, rfl⟩ <;> exact hlossless
    refine audit_same hd _ (Nat.le_of_eq (length_abortAll _ _).symm) no_ops
      (List.append_nil _).symm fun sid key => ?_
    rw [interaction_clear, hempty]
  | replayed h =>
    rw [hdesk, hdesk'] at h
    subst h
    exact audit_same hd _ (Nat.le_refl _) no_ops (List.append_nil _).symm fun _ _ => rfl
  | @unresolved n message rest hqueue hnone h =>
    rw [hdesk, hdesk'] at h
    rw [hdesk] at hqueue
    have hmissing : d.interaction message.submissionId message.requestKey = none := by
      unfold Desk.interaction
      cases hp : d.submissions.lookup message.submissionId with
      | none => rfl
      | some p => exact hnone p (by rw [hdesk]; exact hp)
    subst h
    unfold observe
    simp only [hqueue, hmissing]
    exact audit_unchanged hd (Nat.le_refl _) no_ops (List.append_nil _).symm fun _ _ => rfl
  | @resolved n message rest p i response id hqueue hp hi hresponse hsubmit h =>
    rw [hdesk, hdesk'] at h
    rw [hdesk] at hqueue hp
    have hfiled : d.interaction message.submissionId message.requestKey = some i :=
      Option.bind_eq_some_iff.mpr ⟨p, hp, hi⟩
    have hops : acceptedSince d d' = [(i.request.op response.outcome, id)].map (·.1) :=
      acceptedSince_append (by rw [h])
    unfold observe
    simp only [hqueue, hfiled, hops]
    have haccepted : d'.accepted = d.accepted ++ [(i.request.op response.outcome, id)] := by rw [h]
    exact audit_resolved hd hfiled (PendingPermissionRequest.op_target _ _) (by rw [h]) haccepted
      (interaction_erase (by rw [h]) hp)
  | @resolutionFailed n message rest p i err hqueue hp hi hfailed h =>
    -- A response that fails, or whose op is refused, is what a lossless step excludes.
    obtain ⟨response, id, hresponse, hsubmit⟩ := losslessResolution_ok hqueue
      (Option.bind_eq_some_iff.mpr ⟨p, hp, hi⟩) hlossless
    rcases hfailed with ⟨e, herr⟩ | ⟨response', e, hresponse', herr⟩
    · rw [hresponse] at herr
      cases herr
    · rw [hresponse] at hresponse'
      cases hresponse'
      rw [hsubmit] at herr
      cases herr
  | registered hask hterminal h =>
    rw [hdesk, hdesk'] at h
    rw [observe_passed hask hterminal]
    subst h
    exact audit_unchanged hd (Nat.le_refl _) no_ops (List.append_nil _).symm fun _ _ => rfl
  | @autoApproved event approval id hprofile happroval hsubmit h =>
    rw [hdesk, hdesk'] at h
    obtain ⟨target, htarget⟩ : ∃ target, approval.intoOp.approvalTarget = some target := by
      cases approval <;> exact ⟨_, rfl⟩
    subst h
    rw [observe_answeredAtOnce ((autoApproval_target happroval).trans htarget)]
    exact audit_answeredAtOnce hd htarget rfl rfl fun _ _ => rfl
  | @autoApprovalRefused event approval err hprofile happroval hsubmit h =>
    obtain ⟨id, hid⟩ := losslessEvent_autoApproved hprofile happroval hlossless
    rw [hsubmit] at hid
    cases hid
  | @unrouted event hroute hp h =>
    rw [hdesk, hdesk'] at h
    cases hask : askedTarget event.msg with
    | some target =>
      have hheld := (losslessEvent_submission (by rw [hask]; rfl) hroute hlossless).1
      -- An approval event without its submission would be lost.
      rw [show s.running.actor.submissions.lookup event.id = none from hp] at hheld
      cases hheld
    | none =>
      rw [observe_released hask]
      subst h
      exact audit_settle hd _ event
  | @requested event request p hroute hask hp h =>
    rw [hdesk, hdesk'] at h
    rw [hdesk] at hp
    have htarget := approvalRequest_target hask
    have hfree : d.interaction event.id request.requestKey = none := by
      have hfiled := (losslessEvent_submission (by rw [htarget]; rfl) hroute hlossless).2
      rw [hask] at hfiled
      rw [← hdesk]
      exact hfiled
    subst h
    rw [observe_requested htarget]
    exact audit_requested hd (length_request ..) rfl rfl hfree (interaction_request rfl hp)
  | @contentFailed event approval p err hroute hmsg hp hcontent h =>
    have hfiled := (losslessEvent_submission (by rw [hmsg]; rfl) hroute hlossless).2
    have hnone : approvalRequest codex event.msg = none := by
      rw [hmsg, approvalRequest, execApprovalInteraction, hcontent]
    rw [hnone] at hfiled
    obtain ⟨elicitation, _, hmsg', _⟩ := hfiled
    rw [hmsg] at hmsg'
    cases hmsg'
  | @declined event elicitation p id hmsg hunsupported hp hsubmit h =>
    rw [hdesk, hdesk'] at h
    have hask : askedTarget event.msg =
        some (.elicitation elicitation.serverName elicitation.id) := by rw [hmsg]; rfl
    subst h
    rw [observe_answeredAtOnce hask]
    exact audit_answeredAtOnce hd rfl rfl rfl fun _ _ => rfl
  | @declineRefused event elicitation p e err hmsg hunsupported hp hsubmit h =>
    have hroute : GoesToSubmission s.running.actor event := fun _ => by rw [hmsg]; rfl
    have hfiled := (losslessEvent_submission (by rw [hmsg]; rfl) hroute hlossless).2
    have hnone : approvalRequest codex event.msg = none := by
      rw [hmsg, approvalRequest, hunsupported]
      rfl
    rw [hnone] at hfiled
    obtain ⟨elicitation', id, hmsg', hid⟩ := hfiled
    rw [hmsg] at hmsg'
    cases hmsg'
    rw [hsubmit] at hid
    cases hid
  | @finished event result p hresult hp h =>
    rw [hdesk, hdesk'] at h
    rw [observe_released (not_asked_of_terminal hresult)]
    subst h
    refine audit_finished hd fun e hturn => ?_
    rw [hresult, hturn]
    simp
  | @passed event hask hterminal h =>
    rw [hdesk, hdesk'] at h
    rw [observe_released hask]
    subst h
    exact audit_settle hd _ event
  | collected h =>
    rw [hdesk, hdesk'] at h
    subst h
    refine audit_collected hd fun sid p hp => ?_
    rw [← hdesk] at hp ⊢
    have hkeep := List.all_eq_true.mp hlossless ⟨sid, p⟩ (AList.mem_lookup_iff.mp hp)
    rw [Bool.or_eq_true, isActive_eq] at hkeep
    exact hkeep
  | responded ht hstate h =>
    rw [hdesk, hdesk'] at h
    subst h
    exact audit_unchanged hd (Nat.le_of_eq (List.length_modify ..).symm) no_ops
      (List.append_nil _).symm fun _ _ => rfl
  | sent ht hstate h =>
    rw [hdesk, hdesk'] at h
    subst h
    exact audit_unchanged hd (Nat.le_of_eq (List.length_modify ..).symm) no_ops
      (List.append_nil _).symm fun _ _ => rfl
  | closed hwaiter h =>
    rw [hdesk, hdesk'] at h
    subst h
    exact audit_unchanged hd (Nat.le_refl _) no_ops (List.append_nil _).symm fun _ _ => rfl

/-! ## Runs -/

/-- The step drops no request without an answer, and its ids are fresh. -/
def losslessStep (codex : Codex) (s : Audited) (l : Label) (s' : Audited) : Bool :=
  lossless codex s.running l && s.running.freshIds s'.running

/-- **Approvals.** In every state of every run whose steps are lossless, every
approval event handled so far is still filed, was answered by exactly one op, or
was released, and every accepted op that answers an approval is booked. -/
theorem approvals_settled (codex : Codex) (config : Config) (models : ModelsManager)
    (labels : List Label) (s : Audited)
    (hlossless : Along (Audited.step codex) (fun s l s' => losslessStep codex s l s' = true)
      ⟨.start config models, []⟩ labels)
    (hrun : exec (Audited.step codex) ⟨.start config models, []⟩ labels = some s) :
    (∀ e ∈ s.ledger, e.Settled s.running.actor.desk) ∧
      ∀ target, countAnswers target (s.running.actor.world.accepted.map (·.1)) =
        booked target s.ledger := by
  have haudit : Audit s.running.actor.desk s.ledger := by
    refine exec_invariant (I := fun s : Audited => Audit s.running.actor.desk s.ledger) ?_ labels
      (audit_start config models) hlossless hrun
    intro s l s' hd hC hstep
    obtain ⟨hlossless, hfresh⟩ := Bool.and_eq_true_iff.mp hC
    exact audit_step hd hlossless hfresh hstep
  exact ⟨haudit.settled, haudit.counted⟩

theorem approvals_settled_oneAfterTheOther :
    ∃ s, exec (Audited.step Codex.sample) ⟨.start Config.sample ModelsManager.sample, []⟩
        oneAfterTheOther = some s ∧
      s.ledger.map (·.answers) =
        [[.execApproval "first" (some "turn") .approved],
         [.execApproval "second" (some "turn") .abort]] ∧
      (∀ e ∈ s.ledger, e.Settled s.running.actor.desk) ∧
      ∀ target, countAnswers target (s.running.actor.world.accepted.map (·.1)) =
        booked target s.ledger :=
  ⟨_, rfl, rfl, approvals_settled Codex.sample Config.sample ModelsManager.sample oneAfterTheOther _
    (by decide +kernel) rfl⟩

/-- The second approval of a call is asked for while the first one is open. -/
def displacing : List Label :=
  firstApproval ++ [.noResolution, .event (.sampleApproval "second"), .collect]

/-- **A displaced approval is lost**: not filed, not answered, not released. -/
theorem approval_lost :
    ∃ s e, exec (Audited.step Codex.sample) ⟨.start Config.sample ModelsManager.sample, []⟩
        displacing = some s ∧ e ∈ s.ledger ∧ e.target = .exec "first" ∧
      ¬ e.Settled s.running.actor.desk := by
  have hfacts : (exec (Audited.step Codex.sample) ⟨.start Config.sample ModelsManager.sample, []⟩
      displacing).map (fun s => (s.ledger,
        (s.running.actor.submissions.lookup "submission-0").map (·.permissionInteractions.tasks))) =
      some ([⟨.exec "first", "submission-0", some 0, [], false⟩,
        ⟨.exec "second", "submission-0", some 1, [], false⟩], some [1]) := by rfl
  obtain ⟨s, hs, hstate⟩ := Option.map_eq_some_iff.mp hfacts
  obtain ⟨hledger, htasks⟩ := Prod.mk.inj hstate
  refine ⟨s, _, hs, by rw [hledger]; exact List.mem_cons_self .., rfl, ?_⟩
  rintro (⟨_, key, i, hi, htask⟩ | ⟨op, hanswers, _⟩ | hreleased)
  · obtain ⟨p, hp, hkey⟩ := Option.bind_eq_some_iff.mp hi
    rw [show s.running.actor.submissions.lookup "submission-0" = some p from hp,
      Option.map_some] at htasks
    have hmem : i.task ∈ p.permissionInteractions.tasks :=
      List.mem_map_of_mem (Dict.mem_values.mpr ⟨key, hkey⟩)
    rw [Option.some.inj htasks, ← Option.some.inj htask] at hmem
    cases List.mem_singleton.mp hmem
  · cases hanswers
  · cases hreleased

end CodexAcp.Thread
