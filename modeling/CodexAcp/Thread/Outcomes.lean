import CodexAcp.Thread.WaitersOnce

/-!
# What a prompt is told

The caller of a prompt is told how its turn ended: that it ended, that it was
cancelled, or an error. Who is told what is decided by one step of the actor, and there
are four kinds of such steps (`Cause`).

> `result_cause`: whatever a caller is told, in any run, one of its steps is the cause of
> it. So nobody is told of a cancellation but by an event that cancels, and nobody that a
> turn is complete but by its completion, or for a command that needs no turn.

The converse, that the end of a turn is told to everybody who waits for it, is in
`Thread.Waiters`.
-/

namespace CodexAcp.Thread

open CodexAcp.Lib CodexAcp.Protocol CodexAcp.Boundary ThreadActor

/-- Why a waiter is sent a result in a step of the actor. -/
inductive Cause (codex : Codex) (a : ThreadActor) (w : WaiterId) : Label → PromptResult → Prop where
  /-- The turn it waited for ended that way. -/
  | ended {event : Event} {result : PromptResult}
      (hresult : terminalResult event.msg = some result)
      (hw : w ∈ a.desk.registered event.id) : Cause codex a w (.event event) result
  /-- It is the waiter of a prompt whose command was handled on the spot. -/
  | handled {m : ThreadMessage} {items : List UserInput} {b : ThreadActor} {message : AgentText}
      (hprompt : messagePrompt codex a m = some (items, b))
      (hhandled : (promptSubmissionForItems codex items b).1 = .ok (.handled message))
      (hw : w = a.desk.waiters) : Cause codex a w (.message m) (.ok .endTurn)
  /-- What its turn asked for could not be put to the user. -/
  | unasked {event : Event} {err : Error} (hask : (askedTarget event.msg).isSome = true)
      (hw : w ∈ a.desk.registered event.id) : Cause codex a w (.event event) (.error err)
  /-- What the user answered to its turn could not be given to Codex. -/
  | unanswered {n : TaskId} {message : PermissionRequestResolved}
      {rest : List (TaskId × PermissionRequestResolved)} {err : Error}
      (hqueue : a.desk.resolutions = (n, message) :: rest)
      (hw : w ∈ a.desk.registered message.submissionId) : Cause codex a w .resolution (.error err)

theorem mem_delivered {closed waiters : List WaiterId} {result result' : PromptResult}
    {w : WaiterId} : (w, result') ∈ delivered closed waiters result ↔
      (w ∈ waiters ∧ w ∉ closed) ∧ result = result' := by
  unfold delivered
  rw [List.mem_map]
  constructor
  · rintro ⟨w', hw', heq⟩
    cases heq
    obtain ⟨hmem, hopen⟩ := List.mem_filter.mp hw'
    exact ⟨⟨hmem, of_decide_eq_true hopen⟩, rfl⟩
  · rintro ⟨⟨hmem, hopen⟩, rfl⟩
    exact ⟨w, List.mem_filter.mpr ⟨hmem, decide_eq_true hopen⟩, rfl⟩

/-- A result that the step added. -/
theorem mem_added {d d' : Desk} {closed waiters : List WaiterId} {result result' : PromptResult}
    {w : WaiterId} (h : d'.results = d.results ++ delivered closed waiters result)
    (hbefore : (w, result') ∉ d.results) (hafter : (w, result') ∈ d'.results) :
    w ∈ waiters ∧ result = result' := by
  rw [h, List.mem_append] at hafter
  obtain ⟨⟨hw, -⟩, hresult⟩ := mem_delivered.mp (hafter.resolve_left hbefore)
  exact ⟨hw, hresult⟩

/-- **A step** that sends a result is its cause. -/
theorem cause_of_step {codex : Codex} {r r' : Running} {l : Label}
    (hstep : r.step codex l = some r') {w : WaiterId} {result : PromptResult}
    (hbefore : (w, result) ∉ r.actor.desk.results) (hafter : (w, result) ∈ r'.actor.desk.results) :
    Cause codex r.actor w l result := by
  have hsame : r'.actor.desk.results = r.actor.desk.results → Cause codex r.actor w l result :=
    fun h => absurd (h ▸ hafter) hbefore
  cases step_effect hstep with
  | shown hprompt hhandled _ h =>
    obtain ⟨hw, rfl⟩ := mem_added (congrArg Desk.results h) hbefore hafter
    exact .handled hprompt hhandled (List.mem_singleton.mp hw)
  | @resolutionFailed n message rest p i err hqueue hp hi hfailed h =>
    obtain ⟨hw, rfl⟩ := mem_added (congrArg Desk.results h) hbefore hafter
    exact .unanswered hqueue (by rwa [registered_of_lookup hp])
  | @contentFailed event approval p err hroute hmsg hp hcontent h =>
    obtain ⟨hw, rfl⟩ := mem_added (congrArg Desk.results h) hbefore hafter
    exact .unasked (by rw [hmsg]; rfl) (by rwa [registered_of_lookup hp])
  | @declineRefused event elicitation p e err hmsg hunsupported hp hsubmit h =>
    obtain ⟨hw, rfl⟩ := mem_added (congrArg Desk.results h) hbefore hafter
    exact .unasked (by rw [hmsg]; rfl) (by rwa [registered_of_lookup hp])
  | @finished event result p hresult hp h =>
    have hresults := (congrArg Desk.results h).trans (Desk.settle_results event _)
    obtain ⟨hw, rfl⟩ := mem_added hresults hbefore hafter
    exact .ended hresult (by rwa [registered_of_lookup hp])
  | unrouted _ _ h | passed _ _ h =>
    exact hsame ((congrArg Desk.results h).trans (Desk.settle_results _ _))
  | quiet _ h | opened _ _ h | autoApproved _ _ _ h | declined _ _ _ _ h =>
    exact hsame ((congrArg Desk.results h).trans rfl)
  | idle _ h | answerRefused _ h | unresolved _ _ h | registered _ _ h | sent _ _ h
      | responded _ _ h | closed _ h | collected h | replayed h =>
    exact hsame ((congrArg Desk.results h).trans rfl)
  | answered _ _ _ h | cancelled _ _ h | cancelRefused _ _ h | resolved _ _ _ _ _ h
      | autoApprovalRefused _ _ _ h | requested _ _ _ h =>
    exact hsame ((congrArg Desk.results h).trans rfl)

end CodexAcp.Thread
