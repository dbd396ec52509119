import CodexAcp.Thread.Effect

/-!
# The effects of events and permission responses

What handling an event, or a queued permission response, does to the desk:

> `handleEvent_effect`: an event is registered, approved without asking,
> unrouted, or handled by its submission in one of the ways of `Handled`.
> `resolution_effect`: a response resolves the interaction under its key, fails
> the prompt, or finds nothing.
-/

namespace CodexAcp.Thread

open CodexAcp.Lib CodexAcp.Protocol CodexAcp.Boundary

/-! ## Events in their submission -/

/-- What a submission shows of an event that neither asks nor ends anything. -/
def shownEffect : EventMsg → BridgeEffect
  | .threadGoalUpdated event => threadGoalUpdated event
  | .warning event | .guardianWarning event => agentWarningEffect event
  | .contextCompacted => contextCompacted
  | .threadRolledBack event => threadRolledBack event
  | .exitedReviewMode event => (reviewModeExitEffect event).toOption.getD .rendered
  | _ => .rendered

/-- How a submission takes an event. -/
inductive Handled (codex : Codex) (msg : EventMsg) (c : InSubmission) : InSubmission → Prop where
  | requested {request : PermissionInteractionRequest}
      (hask : approvalRequest codex msg = some request) :
      Handled codex msg c (c.spawnPermissionRequest request)
  | contentFailed {approval : ExecApprovalRequestEvent} {err : Error}
      (hmsg : msg = .execApprovalRequest approval)
      (hcontent : execApprovalContent codex approval = .error err) :
      Handled codex msg c (c.sendResult (.error err))
  | declined {elicitation : ElicitationRequestEvent}
      (hmsg : msg = .elicitationRequest elicitation)
      (hunsupported : buildSupportedMcpElicitationPermissionRequest elicitation = none) :
      Handled codex msg c (InSubmission.orSendResult (InSubmission.submitOk codex
        (unsupportedMcpElicitationDecline elicitation.serverName elicitation.id)) c)
  | finished {result : PromptResult} (hresult : terminalResult msg = some result) :
      Handled codex msg c (c.finish result)
  | passed (hask : askedTarget msg = none) (hterminal : terminalResult msg = none) :
      Handled codex msg c (c.executeBridgeEffect (shownEffect msg))

/-- An event whose content is not followed, or that is ignored, leaves its
submission alone. -/
theorem handleEvent_rendered {codex : Codex} {msg : EventMsg} {c : InSubmission}
    (h : routeLiveEvent msg = .forward (.effect .rendered) ∨
      ∃ reason, routeLiveEvent msg = .ignore reason) :
    InSubmission.handleEvent codex msg c = c := by
  unfold InSubmission.handleEvent
  rcases h with h | ⟨reason, h⟩
  · rw [h]; rfl
  · rw [h]; rfl

theorem handleEvent_handled (codex : Codex) (msg : EventMsg) (c : InSubmission) :
    Handled codex msg c (InSubmission.handleEvent codex msg c) := by
  cases msg
  case execApprovalRequest event =>
    show Handled codex _ c (InSubmission.orSendResult (InSubmission.execApproval codex event) c)
    unfold InSubmission.orSendResult InSubmission.execApproval
    rw [Handler.bind_run, Handler.lift_run]
    cases hcontent : execApprovalContent codex event with
    | error err =>
      -- The content is built first: without it no request is made.
      have hbuilt : execApprovalInteraction codex event = .error err := by
        rw [execApprovalInteraction, hcontent]
      rw [hbuilt]
      exact .contentFailed rfl hcontent
    | ok _ =>
      obtain ⟨interaction, hbuilt⟩ : ∃ i, execApprovalInteraction codex event = .ok i := by
        rw [execApprovalInteraction, hcontent]
        exact ⟨_, rfl⟩
      rw [hbuilt]
      exact .requested (by rw [approvalRequest, hbuilt])
  case applyPatchApprovalRequest event => exact .requested rfl
  case requestPermissions event => exact .requested rfl
  case elicitationRequest event =>
    show Handled codex _ c (InSubmission.orSendResult (InSubmission.mcpElicitation codex event) c)
    unfold InSubmission.mcpElicitation
    cases hbuilt : buildSupportedMcpElicitationPermissionRequest event with
    | none => exact .declined rfl hbuilt
    | some supported => exact .requested (by rw [approvalRequest, hbuilt]; rfl)
  case turnComplete event => exact .finished rfl
  case error event => exact .finished rfl
  case shutdownComplete => exact .finished rfl
  case turnAborted event =>
    obtain ⟨turnId⟩ := event
    cases turnId with
    -- An abort that names no turn ends none: it only moves the lifecycle.
    | none => exact .passed rfl rfl
    | some turnId => exact .finished rfl
  -- Two events are routed by their payload, and shown nothing of here either way.
  case tokenCount event =>
    rw [handleEvent_rendered]
    · exact .passed rfl rfl
    · cases h : usageIgnoredReason event <;> simp [routeLiveEvent, h]
  case patchApplyUpdated event =>
    rw [handleEvent_rendered]
    · exact .passed rfl rfl
    · cases h : event.changes.isEmpty <;> simp [routeLiveEvent, h]
  case exitedReviewMode event =>
    obtain ⟨reviewOutput⟩ := event
    cases reviewOutput <;> exact .passed rfl rfl
  all_goals exact .passed rfl rfl

/-! ## A submission's method, on the desk -/

/-- A method that gives its submission a new state, and the world it leaves. -/
theorem onSubmission_desk {a : ThreadActor} {id : String} {p : PromptState}
    (hp : a.submissions.lookup id = some p) (f : InSubmission → InSubmission) :
    (a.onSubmission id f).desk =
      { submissions := a.submissions.set id (f ⟨p, a.world⟩).self
        pendingSubmission := a.state.pendingSubmissionId
        accepted := (f ⟨p, a.world⟩).world.accepted
        tasks := (f ⟨p, a.world⟩).world.tasks
        resolutions := (f ⟨p, a.world⟩).world.resolutions
        waiters := (f ⟨p, a.world⟩).world.waiters
        closed := (f ⟨p, a.world⟩).world.closed
        results := (f ⟨p, a.world⟩).world.results } := by
  unfold ThreadActor.onSubmission
  rw [hp]
  rfl

theorem onSubmission_none {a : ThreadActor} {id : String}
    (hp : a.submissions.lookup id = none) (f : InSubmission → InSubmission) :
    a.onSubmission id f = a := by
  unfold ThreadActor.onSubmission
  rw [hp]

theorem sendResult_eq (result : PromptResult) (c : InSubmission) :
    c.sendResult result =
      { self := { c.self with responses := ⟨none, []⟩ }
        world := { c.world with
          results := c.world.results ++ delivered c.world.closed c.self.responses.all result } } := by
  unfold InSubmission.sendResult PromptResponses.send
  rw [foldl_sendResult]

private theorem inSubmission_submitOk_run (codex : Codex) (op : Op) (c : InSubmission) :
    InSubmission.submitOk codex op c =
      match codex.submit c.world.calls op with
      | .ok id =>
        (.ok (), { c with world :=
          { c.world with
            calls := c.world.calls + 1
            accepted := c.world.accepted ++ [(op, id)] } })
      | .error e =>
        (.error (Error.fromAnyhow e),
          { c with world := { c.world with calls := c.world.calls + 1 } }) := by
  unfold InSubmission.submitOk
  rw [Handler.zoom_run, World.submitOk_run]
  cases codex.submit c.world.calls op <;> rfl

theorem finish_eq (result : PromptResult) (c : InSubmission) :
    c.finish result =
      { self := { c.self with permissionInteractions := ∅, responses := ⟨none, []⟩ }
        world := { c.world with
          tasks := abortAll c.self.permissionInteractions.tasks c.world.tasks
          results := c.world.results ++ delivered c.world.closed c.self.responses.all result } } := by
  unfold InSubmission.finish
  rw [sendResult_eq]
  rfl

theorem orFail_ok {x : Handler InSubmission Error Unit} {c c' : InSubmission}
    (h : x c = (.ok (), c')) : InSubmission.orFail x c = c' := by
  unfold InSubmission.orFail
  rw [h]

theorem orFail_error {x : Handler InSubmission Error Unit} {c c' : InSubmission} {err : Error}
    (h : x c = (.error err, c')) : InSubmission.orFail x c = c'.finish (.error err) := by
  unfold InSubmission.orFail
  rw [h]
  rfl

section OnSubmission

variable {a : ThreadActor} {id : String} {p : PromptState}

theorem spawn_desk (hp : a.submissions.lookup id = some p)
    (request : PermissionInteractionRequest) :
    (a.onSubmission id (·.spawnPermissionRequest request)).desk = a.desk.request id p request :=
  onSubmission_desk hp _

theorem fail_desk (hp : a.submissions.lookup id = some p) (result : PromptResult) :
    (a.onSubmission id (·.sendResult result)).desk = a.desk.fail id p result := by
  rw [onSubmission_desk hp, sendResult_eq]
  rfl

theorem finish_desk (hp : a.submissions.lookup id = some p) (result : PromptResult) :
    (a.onSubmission id (·.finish result)).desk = a.desk.finish id p result := by
  rw [onSubmission_desk hp, finish_eq]
  rfl

/-- An op submitted for the submission: accepted, or its error ends the prompt. -/
theorem submitted_desk (codex : Codex) (op : Op) (hp : a.submissions.lookup id = some p) :
    (a.onSubmission id (InSubmission.orSendResult (InSubmission.submitOk codex op))).desk =
      match codex.submit a.world.calls op with
      | .ok submissionId => a.desk.accept op submissionId
      | .error e => a.desk.fail id p (.error (Error.fromAnyhow e)) := by
  rw [onSubmission_desk hp]
  unfold InSubmission.orSendResult
  rw [inSubmission_submitOk_run]
  dsimp only
  cases codex.submit a.world.calls op with
  | ok submissionId =>
    dsimp only
    rw [Dict.set_self hp]
    rfl
  | error e =>
    dsimp only
    rw [sendResult_eq]
    rfl

theorem id_desk (hp : a.submissions.lookup id = some p) :
    (a.onSubmission id fun c => c).desk = a.desk := by
  rw [onSubmission_desk hp, Dict.set_self hp]
  rfl

/-- What a submission shows is not on the desk. -/
theorem executeBridgeEffect_desk (hp : a.submissions.lookup id = some p) (effect : BridgeEffect) :
    (a.onSubmission id (·.executeBridgeEffect effect)).desk = a.desk := by
  rw [onSubmission_desk hp]
  cases effect with
  | forward update => rw [show (InSubmission.executeBridgeEffect _ ⟨p, a.world⟩).self = p from rfl,
      Dict.set_self hp]; rfl
  | rendered => rw [show (InSubmission.executeBridgeEffect _ ⟨p, a.world⟩).self = p from rfl,
      Dict.set_self hp]; rfl

end OnSubmission

/-! ## Events -/

section Events

variable {codex : Codex} {a : ThreadActor}

/-- Folding an event into the session state leaves the desk alone. -/
theorem applyEventUpdates_desk (updates : List ActorStateUpdate) :
    ({ a with state := a.state.applyEventUpdates updates } : ThreadActor).desk = a.desk := by
  have h := (ActorState.applyEventUpdates_sameRequests a.state updates).1
  simp only [ThreadActor.desk, ActorState.pendingSubmissionId, h]

/-- Only a question registers a wait for user input. -/
theorem routeActorEvent_register {msg : EventMsg} {request : RequestUserInputEvent}
    (h : routeActorEvent msg = .registerPendingUserInput request) :
    msg = .requestUserInput request := by
  cases msg <;> cases h
  rfl

theorem settle_desk (event : Event) (a : ThreadActor) :
    ({ a with state := a.state.clearPendingUserInputForSubmission event.id } : ThreadActor).desk =
      if a.desk.pendingSubmission = some event.id then
        { a.desk with pendingSubmission := none }
      else a.desk := by
  unfold ActorState.clearPendingUserInputForSubmission
  split
  next h => rw [if_pos (show a.desk.pendingSubmission = some event.id from h)]; rfl
  next h => rw [if_neg (show ¬ a.desk.pendingSubmission = some event.id from h)]

/-- Events that ask for an approval end no wait for user input. -/
theorem settle_of_asked {event : Event} (h : (askedTarget event.msg).isSome) (d : Desk) :
    d.settle event = d := by
  have hclears : clearsPendingUserInput event.msg = false := by
    obtain ⟨id, msg⟩ := event
    cases msg <;> first | rfl | cases h
  unfold Desk.settle
  rw [if_neg (by simp [hclears])]

/-- An event with something to fold into the state only ever passes. -/
theorem passed_of_stateUpdates {msg : EventMsg} (h : actorStateUpdates msg ≠ []) :
    askedTarget msg = none ∧ terminalResult msg = none ∧ clearsPendingUserInput msg = false := by
  cases msg <;> first | exact absurd rfl h | exact ⟨rfl, rfl, rfl⟩

theorem onSubmission_congr {b : ThreadActor} {id : String} {p : PromptState}
    {f g : InSubmission → InSubmission} (hp : b.submissions.lookup id = some p)
    (h : f ⟨p, b.world⟩ = g ⟨p, b.world⟩) : b.onSubmission id f = b.onSubmission id g := by
  unfold ThreadActor.onSubmission
  rw [hp]
  dsimp only
  rw [h]

/-- An event routed to its submission, after the state took its updates. -/
theorem routed_effect {event : Event} {b a' : ThreadActor} (hb : b.desk = a.desk)
    (hworld : b.world = a.world) (hroute : GoesToSubmission a event)
    (h : a'.desk =
      (b.onSubmission event.id (InSubmission.handleEvent codex event.msg)).desk.settle event) :
    Effect codex a a' (.event event) := by
  have hsubs : b.submissions = a.desk.submissions := congrArg Desk.submissions hb
  cases hp : b.submissions.lookup event.id with
  | none =>
    rw [onSubmission_none hp, hb] at h
    -- No submission takes the event; the wait for user input ends all the same.
    exact .unrouted hroute (by rw [← hsubs]; exact hp) h
  | some p =>
    have hpa : a.desk.submissions.lookup event.id = some p := by rw [← hsubs]; exact hp
    have hhandled := handleEvent_handled codex event.msg ⟨p, b.world⟩
    generalize hc : InSubmission.handleEvent codex event.msg ⟨p, b.world⟩ = c at hhandled
    cases hhandled with
    | requested hask =>
      rw [onSubmission_congr hp hc, spawn_desk hp, hb,
        settle_of_asked (by rw [approvalRequest_target hask]; rfl)] at h
      exact .requested hroute hask hpa h
    | contentFailed hmsg hcontent =>
      have hask : (askedTarget event.msg).isSome := by rw [hmsg]; rfl
      rw [onSubmission_congr hp hc, fail_desk hp, hb, settle_of_asked hask] at h
      exact .contentFailed hroute hmsg hpa hcontent h
    | @declined elicitation hmsg hunsupported =>
      have hask : (askedTarget event.msg).isSome := by rw [hmsg]; rfl
      rw [onSubmission_congr hp hc, settle_of_asked hask, submitted_desk _ _ hp, hb, hworld] at h
      split at h
      next id hsubmit => exact .declined hmsg hunsupported hpa hsubmit h
      next err hsubmit => exact .declineRefused hmsg hunsupported hpa hsubmit h
    | finished hresult =>
      rw [onSubmission_congr hp hc, finish_desk hp, hb] at h
      exact .finished hresult hpa h
    | passed hask hterminal =>
      rw [onSubmission_congr hp hc, executeBridgeEffect_desk hp, hb] at h
      exact .passed hask hterminal h

/-- An approval dealt with without asking was one of a session without a sandbox. -/
theorem autoApproved_run {approval : Option ActorAutoApproval} {b : ThreadActor}
    (h : a.maybeAutoApprovePermissionRequest codex approval = (true, b)) :
    a.config.permissions.permissionProfile = .disabled ∧
      ∃ approval', approval = some approval' ∧
        b = (ThreadActor.submitOk codex approval'.intoOp a).2 := by
  unfold ThreadActor.maybeAutoApprovePermissionRequest at h
  split at h
  next => cases h
  next hprofile =>
    split at h
    next => cases h
    next approval' => cases h; exact ⟨not_not.mp hprofile, approval', rfl, rfl⟩

theorem notAutoApproved_run {approval : Option ActorAutoApproval} {b : ThreadActor}
    (h : a.maybeAutoApprovePermissionRequest codex approval = (false, b)) :
    b = a ∧ (a.config.permissions.permissionProfile = .disabled → approval = none) := by
  unfold ThreadActor.maybeAutoApprovePermissionRequest at h
  split at h
  next hprofile => cases h; exact ⟨rfl, fun hdisabled => absurd hdisabled hprofile⟩
  next =>
    split at h
    next => cases h; exact ⟨rfl, fun _ => rfl⟩
    next => cases h

/-- **Events.** -/
theorem handleEvent_effect (codex : Codex) (a : ThreadActor) (event : Event) :
    Effect codex a (a.handleEvent codex event) (.event event) := by
  unfold ThreadActor.handleEvent
  dsimp only
  split
  next hgoal =>
    -- The event repeats the goal: it has an update, so it asks and ends nothing.
    have hupdates : actorStateUpdates event.msg ≠ [] := by
      intro hnil
      rw [planActorEvent, hnil] at hgoal
      cases hgoal
    obtain ⟨hask, hterminal, hclears⟩ := passed_of_stateUpdates hupdates
    refine .passed hask hterminal ?_
    unfold Desk.settle
    rw [if_neg (by simp [hclears])]
  next hgoal =>
    generalize hb : ({ a with
      state := a.state.applyEventUpdates (planActorEvent event.msg).stateUpdates } :
        ThreadActor) = b
    have hdesk : b.desk = a.desk := by rw [← hb]; exact applyEventUpdates_desk _
    have hworld : b.world = a.world := by rw [← hb]
    have hconfig : b.config = a.config := by rw [← hb]
    cases haction : (planActorEvent event.msg).action with
    | registerPendingUserInput request =>
      have hmsg := routeActorEvent_register haction
      refine .registered (by rw [hmsg]; rfl) (by rw [hmsg]; rfl) ?_
      rw [← hdesk]
      rfl
    | routeToSubmission clear approval =>
      dsimp only
      cases hauto : b.maybeAutoApprovePermissionRequest codex approval with
      | mk dealt c =>
        -- The approval the plan carries is the one the event would be approved with.
        have happroval : autoApproval event.msg = approval := by
          unfold autoApproval
          rw [show routeActorEvent event.msg = _ from haction]
        cases dealt with
        | true =>
          rcases autoApproved_run hauto with ⟨hprofile, approval', rfl, rfl⟩
          rw [hconfig] at hprofile
          rw [submitOk_run, hworld]
          cases hsubmit : codex.submit a.world.calls approval'.intoOp with
          | ok id =>
            refine .autoApproved hprofile happroval hsubmit ?_
            rw [← hdesk]
            rfl
          | error err =>
            refine .autoApprovalRefused hprofile happroval hsubmit ?_
            rw [← hdesk]
            rfl
        | false =>
          obtain ⟨rfl, hroute⟩ := notAutoApproved_run hauto
          rw [hconfig, ← happroval] at hroute
          refine routed_effect hdesk hworld hroute ?_
          unfold Desk.settle clearsPendingUserInput
          rw [show routeActorEvent event.msg = _ from haction]
          cases clear with
          | none => simp
          | submission => simp [settle_desk]

end Events

/-! ## Permission responses -/

section Resolutions

variable {codex : Codex}

/-- A response taken by its submission: nothing under its key, an error, or the
op of the interaction, with the interaction gone. -/
theorem handlePermissionRequestResolved_run (codex : Codex) (requestKey : String)
    (response : PermissionResult) (c : InSubmission) :
    InSubmission.handlePermissionRequestResolved codex requestKey response c =
      match c.self.permissionInteractions.lookup requestKey with
      | none => (.ok (), c)
      | some i =>
        let c' := { c with self :=
          { c.self with
            permissionInteractions := c.self.permissionInteractions.erase requestKey } }
        match response with
        | .error err => (.error err, c')
        | .ok response => InSubmission.submitOk codex (i.request.op response.outcome) c' := by
  unfold InSubmission.handlePermissionRequestResolved
  rw [Handler.bind_run, Handler.zoom_run]
  unfold PermissionInteractions.resolve
  cases c.self.permissionInteractions.lookup requestKey with
  | none => rfl
  | some i => cases response <;> rfl

theorem resolution_effect {a : ThreadActor} {n : TaskId} {message : PermissionRequestResolved}
    {rest : List (TaskId × PermissionRequestResolved)}
    (hqueue : a.world.resolutions = (n, message) :: rest) :
    Effect codex a
      (ThreadActor.handlePermissionRequestResolved codex message
        { a with world := { a.world with resolutions := rest } }) .resolution := by
  generalize hb : ({ a with world := { a.world with resolutions := rest } } : ThreadActor) = b
  have hdesk : b.desk = { a.desk with resolutions := rest } := by rw [← hb]; rfl
  have hsubs : b.submissions = a.submissions := by rw [← hb]
  have hcalls : b.world.calls = a.world.calls := by rw [← hb]
  unfold ThreadActor.handlePermissionRequestResolved
  cases hp : a.submissions.lookup message.submissionId with
  | none =>
    rw [onSubmission_none (by rw [hsubs]; exact hp)]
    -- The submission was collected before its response came.
    refine .unresolved hqueue ?_ hdesk
    intro p hlookup
    rw [show a.desk.submissions = a.submissions from rfl, hp] at hlookup
    cases hlookup
  | some p =>
    have hpb : b.submissions.lookup message.submissionId = some p := by rw [hsubs]; exact hp
    have hrun := handlePermissionRequestResolved_run codex message.requestKey message.response
      ⟨p, b.world⟩
    dsimp only at hrun
    have hpa : a.desk.submissions.lookup message.submissionId = some p := hp
    cases hi : p.permissionInteractions.lookup message.requestKey with
    | none =>
      rw [hi] at hrun
      dsimp only at hrun
      refine .unresolved hqueue ?_ ?_
      · intro p' hp'
        rw [hpa] at hp'
        cases hp'
        exact hi
      · rw [← hdesk, ← id_desk hpb, onSubmission_congr (g := fun c => c) hpb (orFail_ok hrun)]
    | some i =>
      rw [hi] at hrun
      dsimp only at hrun
      cases hresponse : message.response with
      | error err =>
        rw [hresponse] at hrun
        refine .resolutionFailed err hqueue hpa hi (.inl ⟨err, hresponse⟩) ?_
        rw [onSubmission_desk hpb, orFail_error hrun, finish_eq, ← hb]
        rfl
      | ok response =>
        rw [hresponse] at hrun
        dsimp only at hrun
        rw [inSubmission_submitOk_run] at hrun
        dsimp only at hrun
        rw [hcalls] at hrun
        cases hsubmit : codex.submit a.world.calls (i.request.op response.outcome) with
        | ok id =>
          rw [hsubmit] at hrun
          dsimp only at hrun
          refine .resolved hqueue hpa hi hresponse hsubmit ?_
          rw [onSubmission_desk hpb, orFail_ok hrun, ← hb]
          rfl
        | error e =>
          rw [hsubmit] at hrun
          dsimp only at hrun
          refine .resolutionFailed (Error.fromAnyhow e) hqueue hpa hi
            (.inr ⟨response, e, hresponse, hsubmit⟩) ?_
          rw [onSubmission_desk hpb, orFail_error hrun, finish_eq, ← hb]
          rfl

end Resolutions

end CodexAcp.Thread
