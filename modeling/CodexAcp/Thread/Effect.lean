import CodexAcp.Thread.Desk

/-!
# What a step does to the desk

`Effect codex a a' l` lists what a step with label `l` can do to the desk of an
actor: one constructor for each way a handler can go, with the facts about the
state before that sent it there and the desk it leaves.

The case analysis of the handlers is done once, in the two files after this one
(`step_effect`: every step is one of these). An invariant about pending
requests, permission tasks or prompt waiters is then a case analysis of
`Effect`, and a condition on runs is a condition that rules constructors out.
-/

namespace CodexAcp.Thread

open CodexAcp.Lib CodexAcp.Protocol CodexAcp.Boundary

/-! ## Kinds of events -/

/-- The result an event ends its prompt with, if it ends it: a completed turn,
an aborted one that names the turn, an error, or the end of the session. -/
def terminalResult : EventMsg → Option PromptResult
  | .turnComplete _ => some (.ok .endTurn)
  | .turnAborted event => event.turnId.map fun _ => .ok .cancelled
  | .error event => some (.error (InSubmission.turnError event))
  | .shutdownComplete => some (.ok .cancelled)
  | _ => none

/-- The events that ask for an approval, with what they ask an answer for. -/
def askedTarget : EventMsg → Option ApprovalTarget
  | .execApprovalRequest event => some (.exec (event.approvalId.getD event.callId))
  | .applyPatchApprovalRequest event => some (.patch event.callId)
  | .requestPermissions event => some (.requestPermissions event.callId)
  | .elicitationRequest event => some (.elicitation event.serverName event.id)
  | _ => none

/-- The events after which a submission no longer waits for user input. -/
def clearsPendingUserInput (msg : EventMsg) : Bool :=
  match routeActorEvent msg with
  | .routeToSubmission .submission _ => true
  | _ => false

/-- What a session without a sandbox approves without asking. -/
def autoApproval (msg : EventMsg) : Option ActorAutoApproval :=
  match routeActorEvent msg with
  | .routeToSubmission _ autoApproval => autoApproval
  | _ => none

/-- The permission request of an event answers what the event asks for. -/
theorem approvalRequest_target {codex : Codex} {msg : EventMsg}
    {request : PermissionInteractionRequest} (h : approvalRequest codex msg = some request) :
    askedTarget msg = some request.pendingRequest.target := by
  unfold approvalRequest at h
  split at h
  next event =>
    split at h
    next interaction hinteraction =>
      cases h
      unfold execApprovalInteraction at hinteraction
      split at hinteraction
      next => cases hinteraction
      next => cases hinteraction; rfl
    next => cases h
  next => cases h; rfl
  next => cases h; rfl
  next => obtain ⟨supported, _, rfl⟩ := Option.map_eq_some_iff.mp h; rfl
  next => cases h

/-- An event that ends a turn asks for nothing. -/
theorem not_asked_of_terminal {msg : EventMsg} {result : PromptResult}
    (h : terminalResult msg = some result) : askedTarget msg = none := by
  cases msg <;> first | rfl | cases h

theorem not_terminal_of_asked {msg : EventMsg} (h : (askedTarget msg).isSome) :
    terminalResult msg = none := by
  cases hresult : terminalResult msg with
  | none => rfl
  | some result =>
    rw [not_asked_of_terminal hresult] at h
    cases h

/-- The op a session without a sandbox approves with answers what was asked. -/
theorem autoApproval_target {msg : EventMsg} {approval : ActorAutoApproval}
    (h : autoApproval msg = some approval) :
    askedTarget msg = approval.intoOp.approvalTarget := by
  cases msg <;> cases h <;> rfl

/-- An event a session without a sandbox approves by itself ends no turn. -/
theorem not_terminal_of_autoApproval {msg : EventMsg} {approval : ActorAutoApproval}
    (h : autoApproval msg = some approval) : terminalResult msg = none := by
  refine not_terminal_of_asked ?_
  rw [autoApproval_target h]
  cases approval <;> rfl

/-! ## Desk operations -/

namespace Desk

/-- Send a result to the waiters of a submission; none stays registered. -/
def fail (id : String) (p : PromptState) (result : PromptResult) (d : Desk) : Desk :=
  { d with
    submissions := d.submissions.set id { p with responses := ⟨none, []⟩ }
    results := d.results ++ delivered d.closed p.responses.all result }

/-- Drop the pending requests of a submission, cancel their tasks, and send a
result to its waiters. -/
def finish (id : String) (p : PromptState) (result : PromptResult) (d : Desk) : Desk :=
  { d with
    submissions := d.submissions.set id
      { p with permissionInteractions := ∅, responses := ⟨none, []⟩ }
    tasks := abortAll p.permissionInteractions.tasks d.tasks
    results := d.results ++ delivered d.closed p.responses.all result }

/-- Put a request to the user: a new task, and the interaction under its key;
a displaced one has its task cancelled. -/
def request (id : String) (p : PromptState) (request : PermissionInteractionRequest) (d : Desk) :
    Desk :=
  { d with
    submissions := d.submissions.set id
      { p with
        permissionInteractions := p.permissionInteractions.insert request.requestKey
          ⟨request.pendingRequest, d.tasks.length⟩ }
    tasks := abortAll
      ((p.permissionInteractions.lookup request.requestKey).toList.map (·.task))
      (d.tasks ++ [{ submissionId := p.submissionId, request := request, state := .waiting }]) }

/-- An event that ends a turn also ends the wait for user input of its submission. -/
def settle (event : Event) (d : Desk) : Desk :=
  if clearsPendingUserInput event.msg ∧ d.pendingSubmission = some event.id then
    { d with pendingSubmission := none }
  else d

/-- Settling touches the wait for user input only. -/
theorem settle_eq (event : Event) (d : Desk) :
    d.settle event = { d with pendingSubmission := (d.settle event).pendingSubmission } := by
  unfold settle
  split <;> rfl

section Settle

variable (event : Event) (d : Desk)

@[simp] theorem settle_submissions : (d.settle event).submissions = d.submissions := by
  rw [settle_eq]

@[simp] theorem settle_tasks : (d.settle event).tasks = d.tasks := by
  rw [settle_eq]

@[simp] theorem settle_accepted : (d.settle event).accepted = d.accepted := by
  rw [settle_eq]

@[simp] theorem settle_results : (d.settle event).results = d.results := by
  rw [settle_eq]

@[simp] theorem settle_waiters : (d.settle event).waiters = d.waiters := by
  rw [settle_eq]

@[simp] theorem settle_closed : (d.settle event).closed = d.closed := by
  rw [settle_eq]

end Settle

/-- Have a submission under an id. -/
def ensure (id : String) (d : Desk) : Desk :=
  { d with
    submissions := match d.submissions.lookup id with
      | some _ => d.submissions
      | none => d.submissions.insert id (.forReplay id) }

/-- Drop every pending request and cancel the tasks. -/
def clear (d : Desk) : Desk :=
  { d with
    submissions := d.submissions.mapValues fun _ p => { p with permissionInteractions := ∅ }
    tasks := abortAll
      ((Dict.values d.submissions).flatMap fun p => p.permissionInteractions.tasks) d.tasks }

/-- Record an accepted op. -/
def accept (op : Op) (id : String) (d : Desk) : Desk :=
  { d with accepted := d.accepted ++ [(op, id)] }

/-- Keep the submissions somebody waits for and the one that waits for the user. -/
def collect (d : Desk) : Desk :=
  { d with
    submissions := d.submissions.retain fun id p =>
      (p.responses.all.any fun waiter => waiter ∉ d.closed) || d.pendingSubmission = some id }

end Desk

/-! ## The prompt of a message -/

/-- The actor after it made a waiter. -/
def ThreadActor.withWaiter (a : ThreadActor) : ThreadActor :=
  { a with world := { a.world with waiters := a.world.waiters + 1 } }

/-- The items of a prompt that is not an answer to a question, and the actor its
slash command runs on. -/
def freshPrompt (codex : Codex) (request : PromptRequest) (a : ThreadActor) :
    Option (List UserInput × ThreadActor) :=
  if a.state.pendingUserInput.isSome then none
  else some (codex.buildPromptItems request.prompt (some a.config.cwd), a.withWaiter)

/-- The same for a message: steering starts a prompt when no turn is active. -/
def messagePrompt (codex : Codex) (a : ThreadActor) :
    ThreadMessage → Option (List UserInput × ThreadActor)
  | .prompt request => freshPrompt codex request a
  | .steer request =>
    let items := codex.buildPromptItems request.prompt (some a.config.cwd)
    if request.prompt.isEmpty || items.isEmpty then none
    else if codex.steerInput a.world.calls items = .error .noActiveTurn then
      freshPrompt codex request a.called
    else none
  | _ => none

/-! ## Effects -/

/-- The event is not one a session without a sandbox approves by itself. -/
def GoesToSubmission (a : ThreadActor) (event : Event) : Prop :=
  a.config.permissions.permissionProfile = .disabled → autoApproval event.msg = none

/-- What a step labelled so may do to the desk. -/
inductive Effect (codex : Codex) (a a' : ThreadActor) : Label → Prop where
  /-- A message that changes settings, or fails: at most a waiter was made, and
  dropped with its caller's reply. -/
  | quiet {m : ThreadMessage} {ops : List (Op × String)} {n : Nat}
      (hops : ∀ o ∈ ops, Op.approvalTarget o.1 = none)
      (h : a'.desk =
        { a.desk with accepted := a.desk.accepted ++ ops, waiters := a.desk.waiters + n }) :
      Effect codex a a' (.message m)
  /-- A step of the loop that handles nothing, or of the models manager. -/
  | idle {l : Label} (hl : l = .noResolution ∨ l = .wake ∨ ∃ models, l = .modelsChanged models)
      (h : a'.desk = a.desk) : Effect codex a a' l
  /-- A prompt was submitted: its caller waits for the submission. -/
  | opened {m : ThreadMessage} {ops : List (Op × String)} {op : Op} {id : String}
      (hops : ∀ o ∈ ops, Op.approvalTarget o.1 = none) (hop : op.approvalTarget = none)
      (h : a'.desk =
        { a.desk with
          accepted := a.desk.accepted ++ ops ++ [(op, id)]
          waiters := a.desk.waiters + 1
          submissions := a.desk.submissions.insert id (.new id a.desk.waiters) }) :
      Effect codex a a' (.message m)
  /-- A command was handled on the spot: its caller gets the end of the turn. -/
  | shown {m : ThreadMessage} {ops : List (Op × String)} {items : List UserInput}
      {b : ThreadActor} {message : AgentText} (hprompt : messagePrompt codex a m = some (items, b))
      (hhandled : (ThreadActor.promptSubmissionForItems codex items b).1 = .ok (.handled message))
      (hops : ∀ o ∈ ops, Op.approvalTarget o.1 = none)
      (h : a'.desk =
        { a.desk with
          accepted := a.desk.accepted ++ ops
          waiters := a.desk.waiters + 1
          results := a.desk.results ++
            delivered a.desk.closed [a.desk.waiters] (.ok .endTurn) }) :
      Effect codex a a' (.message m)
  /-- A prompt answered the question the session waited for. -/
  | answered {m : ThreadMessage} {sid id : String} {op : Op} {p : PromptState}
      (hpending : a.desk.pendingSubmission = some sid) (hop : op.approvalTarget = none)
      (hp : (a.desk.ensure sid).submissions.lookup sid = some p)
      (h : a'.desk =
        { a.desk with
          accepted := a.desk.accepted ++ [(op, id)]
          waiters := a.desk.waiters + 1
          submissions := (a.desk.ensure sid).submissions.set sid (p.addResponseTx a.desk.waiters)
          pendingSubmission := none }) :
      Effect codex a a' (.message m)
  /-- A prompt tried to answer the question and Codex refused. -/
  | answerRefused {m : ThreadMessage} {sid : String}
      (hpending : a.desk.pendingSubmission = some sid)
      (h : a'.desk = { a.desk.ensure sid with waiters := a.desk.waiters + 1 }) :
      Effect codex a a' (.message m)
  /-- The turn was cancelled, or the thread shut down. -/
  | cancelled {m : ThreadMessage} {op : Op} {id : String}
      (hm : m = .cancel ∧ op = .interrupt ∨ m = .shutdown ∧ op = .shutdown)
      (hsubmit : codex.submit a.world.calls op = .ok id)
      (h : a'.desk = a.desk.clear.accept op id) : Effect codex a a' (.message m)
  | cancelRefused {m : ThreadMessage} {op : Op} {err : String}
      (hm : m = .cancel ∧ op = .interrupt ∨ m = .shutdown ∧ op = .shutdown)
      (hsubmit : codex.submit a.world.calls op = .error err)
      (h : a'.desk = a.desk.clear) : Effect codex a a' (.message m)
  /-- A history was replayed. -/
  | replayed {history : List RolloutItem} {pending : Option String}
      (h : a'.desk = { a.desk with pendingSubmission := pending }) :
      Effect codex a a' (.message (.replayHistory history))
  /-- A response found no interaction under its key. -/
  | unresolved {n : TaskId} {message : PermissionRequestResolved}
      {rest : List (TaskId × PermissionRequestResolved)}
      (hqueue : a.desk.resolutions = (n, message) :: rest)
      (hnone : ∀ p, a.desk.submissions.lookup message.submissionId = some p →
        p.permissionInteractions.lookup message.requestKey = none)
      (h : a'.desk = { a.desk with resolutions := rest }) : Effect codex a a' .resolution
  /-- A response was turned into the op of the interaction under its key. -/
  | resolved {n : TaskId} {message : PermissionRequestResolved}
      {rest : List (TaskId × PermissionRequestResolved)} {p : PromptState}
      {i : PendingPermissionInteraction} {response : RequestPermissionResponse} {id : String}
      (hqueue : a.desk.resolutions = (n, message) :: rest)
      (hp : a.desk.submissions.lookup message.submissionId = some p)
      (hi : p.permissionInteractions.lookup message.requestKey = some i)
      (hresponse : message.response = .ok response)
      (hsubmit : codex.submit a.world.calls (i.request.op response.outcome) = .ok id)
      (h : a'.desk =
        { a.desk with
          resolutions := rest
          submissions := a.desk.submissions.set message.submissionId
            { p with permissionInteractions := p.permissionInteractions.erase message.requestKey }
          accepted := a.desk.accepted ++ [(i.request.op response.outcome, id)] }) :
      Effect codex a a' .resolution
  /-- A response was an error, or its op was refused: the prompt failed. -/
  | resolutionFailed {n : TaskId} {message : PermissionRequestResolved}
      {rest : List (TaskId × PermissionRequestResolved)} {p : PromptState}
      {i : PendingPermissionInteraction} (err : Error)
      (hqueue : a.desk.resolutions = (n, message) :: rest)
      (hp : a.desk.submissions.lookup message.submissionId = some p)
      (hi : p.permissionInteractions.lookup message.requestKey = some i)
      (hfailed : (∃ e, message.response = .error e) ∨ ∃ response e,
        message.response = .ok response ∧
          codex.submit a.world.calls (i.request.op response.outcome) = .error e)
      (h : a'.desk =
        ({ a.desk with resolutions := rest } : Desk).finish message.submissionId
          { p with permissionInteractions := p.permissionInteractions.erase message.requestKey }
          (.error err)) :
      Effect codex a a' .resolution
  /-- A question was put to the user. -/
  | registered {event : Event} (hask : askedTarget event.msg = none)
      (hterminal : terminalResult event.msg = none)
      (h : a'.desk = { a.desk with pendingSubmission := some event.id }) :
      Effect codex a a' (.event event)
  /-- An approval was given without asking. -/
  | autoApproved {event : Event} {approval : ActorAutoApproval} {id : String}
      (hprofile : a.config.permissions.permissionProfile = .disabled)
      (happroval : autoApproval event.msg = some approval)
      (hsubmit : codex.submit a.world.calls approval.intoOp = .ok id)
      (h : a'.desk = a.desk.accept approval.intoOp id) : Effect codex a a' (.event event)
  | autoApprovalRefused {event : Event} {approval : ActorAutoApproval} {err : String}
      (hprofile : a.config.permissions.permissionProfile = .disabled)
      (happroval : autoApproval event.msg = some approval)
      (hsubmit : codex.submit a.world.calls approval.intoOp = .error err)
      (h : a'.desk = a.desk) : Effect codex a a' (.event event)
  /-- An event of a submission the actor does not hold. -/
  | unrouted {event : Event} (hroute : GoesToSubmission a event)
      (hp : a.desk.submissions.lookup event.id = none)
      (h : a'.desk = a.desk.settle event) : Effect codex a a' (.event event)
  /-- An approval was put to the user. -/
  | requested {event : Event} {request : PermissionInteractionRequest} {p : PromptState}
      (hroute : GoesToSubmission a event) (hask : approvalRequest codex event.msg = some request)
      (hp : a.desk.submissions.lookup event.id = some p)
      (h : a'.desk = a.desk.request event.id p request) : Effect codex a a' (.event event)
  /-- An exec approval that could not be rendered: the prompt failed. -/
  | contentFailed {event : Event} {approval : ExecApprovalRequestEvent} {p : PromptState}
      {err : Error} (hroute : GoesToSubmission a event)
      (hmsg : event.msg = .execApprovalRequest approval)
      (hp : a.desk.submissions.lookup event.id = some p)
      (hcontent : execApprovalContent codex approval = .error err)
      (h : a'.desk = a.desk.fail event.id p (.error err)) : Effect codex a a' (.event event)
  /-- An elicitation the adapter cannot put to the user was declined. -/
  | declined {event : Event} {elicitation : ElicitationRequestEvent} {p : PromptState}
      {id : String} (hmsg : event.msg = .elicitationRequest elicitation)
      (hunsupported : buildSupportedMcpElicitationPermissionRequest elicitation = none)
      (hp : a.desk.submissions.lookup event.id = some p)
      (hsubmit : codex.submit a.world.calls
        (unsupportedMcpElicitationDecline elicitation.serverName elicitation.id) = .ok id)
      (h : a'.desk = a.desk.accept
        (unsupportedMcpElicitationDecline elicitation.serverName elicitation.id) id) :
      Effect codex a a' (.event event)
  | declineRefused {event : Event} {elicitation : ElicitationRequestEvent} {p : PromptState}
      {e : String} {err : Error} (hmsg : event.msg = .elicitationRequest elicitation)
      (hunsupported : buildSupportedMcpElicitationPermissionRequest elicitation = none)
      (hp : a.desk.submissions.lookup event.id = some p)
      (hsubmit : codex.submit a.world.calls
        (unsupportedMcpElicitationDecline elicitation.serverName elicitation.id) = .error e)
      (h : a'.desk = a.desk.fail event.id p (.error err)) : Effect codex a a' (.event event)
  /-- An event ended the prompt of its submission. -/
  | finished {event : Event} {result : PromptResult} {p : PromptState}
      (hresult : terminalResult event.msg = some result)
      (hp : a.desk.submissions.lookup event.id = some p)
      (h : a'.desk = (a.desk.finish event.id p result).settle event) :
      Effect codex a a' (.event event)
  /-- An event was only rendered, or ignored. -/
  | passed {event : Event} (hask : askedTarget event.msg = none)
      (hterminal : terminalResult event.msg = none)
      (h : a'.desk = a.desk.settle event) : Effect codex a a' (.event event)
  | collected (h : a'.desk = a.desk.collect) : Effect codex a a' .collect
  | responded {n : TaskId} {response : PermissionResult} {t : Task}
      (ht : a.desk.tasks[n]? = some t) (hstate : t.state = .waiting)
      (h : a'.desk =
        { a.desk with tasks :=
          a.desk.tasks.modify n fun t => { t with state := .responded response } }) :
      Effect codex a a' (.respond n response)
  | sent {n : TaskId} {response : PermissionResult} {t : Task}
      (ht : a.desk.tasks[n]? = some t) (hstate : t.state = .responded response)
      (h : a'.desk =
        { a.desk with
          tasks := a.desk.tasks.modify n fun t => { t with state := .finished }
          resolutions := a.desk.resolutions ++
            [(n, ⟨t.submissionId, t.request.requestKey, response⟩)] }) :
      Effect codex a a' (.send n)
  | closed {waiter : WaiterId} (hwaiter : waiter < a.desk.waiters)
      (h : a'.desk = { a.desk with closed := waiter :: a.desk.closed }) :
      Effect codex a a' (.closeReceiver waiter)

end CodexAcp.Thread
