import CodexAcp.Thread.World

/-!
# A submission

The state an actor keeps for a running prompt: the permission requests that
wait for an answer, each filed under its request key with the data to answer it
and the task that asked, and the waiters of the prompt. A method of a
submission works on the submission and the world (`InSubmission`).

What a submission keeps only to render events is not part of this state, since
no handler here reads it: the streamed text is in `StreamingMessageState`, which
takes the same events; the running tools are left out.
-/

namespace CodexAcp.Thread

open CodexAcp.Lib CodexAcp.Protocol CodexAcp.Boundary

/-- A permission request that waits for its answer. -/
structure PendingPermissionInteraction where
  request : PendingPermissionRequest
  task : TaskId

/-- The pending requests of a submission, by request key. -/
abbrev PermissionInteractions := Dict String PendingPermissionInteraction

namespace PermissionInteractions

/-- Take the interaction filed under a key and turn the response into its op. A
failed response drops the interaction; an unknown key is ignored. -/
def resolve (requestKey : String) (response : PermissionResult) :
    Handler PermissionInteractions Error (Option Op) := fun interactions =>
  match interactions.lookup requestKey with
  | none => (.ok none, interactions)
  | some interaction =>
    match response with
    | .error err => (.error err, interactions.erase requestKey)
    | .ok response =>
      (.ok (some (interaction.request.op response.outcome)), interactions.erase requestKey)

/-- The tasks of the pending requests. -/
def tasks (interactions : PermissionInteractions) : List TaskId :=
  (Dict.values interactions).map (·.task)

end PermissionInteractions

structure PromptState where
  submissionId : String
  permissionInteractions : PermissionInteractions
  responses : PromptResponses

/-- A submission and the world around it. -/
structure InSubmission where
  self : PromptState
  world : World

namespace PromptState

def new (submissionId : String) (waiter : WaiterId) : PromptState :=
  { submissionId := submissionId, permissionInteractions := ∅
    responses := .ofPrimary waiter }

def forReplay (submissionId : String) : PromptState :=
  { submissionId := submissionId, permissionInteractions := ∅, responses := .replay }

def isActive (p : PromptState) (w : World) : Bool := p.responses.isActive w

def addResponseTx (p : PromptState) (waiter : WaiterId) : PromptState :=
  { p with responses := p.responses.add waiter }

end PromptState

namespace InSubmission

/-- Drop every pending request and cancel its task. -/
def abortPendingInteractions (c : InSubmission) : InSubmission :=
  { self := { c.self with permissionInteractions := ∅ }
    world := c.world.abortTasks c.self.permissionInteractions.tasks }

def sendResult (result : PromptResult) (c : InSubmission) : InSubmission :=
  let sent := c.self.responses.send result c.world
  { self := { c.self with responses := sent.1 }, world := sent.2 }

def submitOk (codex : Codex) (op : Op) : Handler InSubmission Error Unit :=
  Handler.zoom (·.world) (fun w c => { c with world := w }) (World.submitOk codex op)

/-! ## Permission requests -/

/-- Start a task that puts the request to the user and file the interaction
under its key; an interaction already filed there is displaced and its task
cancelled. -/
def spawnPermissionRequest (request : PermissionInteractionRequest) (c : InSubmission) :
    InSubmission :=
  let task := c.world.tasks.length
  let world := c.world.spawnTask
    { submissionId := c.self.submissionId, request := request, state := .waiting }
  { self :=
      { c.self with
        permissionInteractions := c.self.permissionInteractions.insert request.requestKey
          ⟨request.pendingRequest, task⟩ }
    -- The displaced interaction is dropped unanswered.
    world := world.abortTasks
      ((c.self.permissionInteractions.lookup request.requestKey).toList.map (·.task)) }

def execApproval (codex : Codex) (event : ExecApprovalRequestEvent) :
    Handler InSubmission Error Unit := do
  let interaction ← Handler.lift (execApprovalInteraction codex event)
  Handler.update (spawnPermissionRequest interaction.request)

def patchApproval (event : ApplyPatchApprovalRequestEvent) : InSubmission → InSubmission :=
  spawnPermissionRequest (patchApprovalInteraction event).request

def requestPermissions (event : RequestPermissionsEvent) : InSubmission → InSubmission :=
  spawnPermissionRequest (requestPermissionsInteraction event).request

/-- An elicitation the adapter cannot put to the user is declined at once. -/
def mcpElicitation (codex : Codex) (event : ElicitationRequestEvent) :
    Handler InSubmission Error Unit :=
  match buildSupportedMcpElicitationPermissionRequest event with
  | some supportedRequest =>
    Handler.update (spawnPermissionRequest (supportedRequest.request event))
  | none => submitOk codex (unsupportedMcpElicitationDecline event.serverName event.id)

def handlePermissionRequestResolved (codex : Codex) (requestKey : String)
    (response : PermissionResult) : Handler InSubmission Error Unit := do
  let op ← Handler.zoom (·.self.permissionInteractions)
    (fun i c => { c with self := { c.self with permissionInteractions := i } })
    (PermissionInteractions.resolve requestKey response)
  match op with
  -- The interaction is gone before the op is submitted, so a refused op is not asked about again.
  | some op => submitOk codex op
  | none => pure ()

/-! ## Events -/

/-- Run a fallible method; its error becomes the result of the prompt. -/
def orSendResult (x : Handler InSubmission Error Unit) (c : InSubmission) : InSubmission :=
  match x c with
  | (.ok (), c') => c'
  | (.error err, c') => c'.sendResult (.error err)

/-- Run a fallible method; its error drops what is pending and becomes the
result of the prompt. -/
def orFail (x : Handler InSubmission Error Unit) (c : InSubmission) : InSubmission :=
  match x c with
  | (.ok (), c') => c'
  | (.error err, c') => c'.abortPendingInteractions.sendResult (.error err)

def handlePermissionEvent (codex : Codex) : LivePermissionEvent → InSubmission → InSubmission
  | .execApprovalRequest event => orSendResult (execApproval codex event)
  | .requestPermissions event => requestPermissions event
  | .elicitationRequest event => orSendResult (mcpElicitation codex event)
  | .applyPatchApprovalRequest event => patchApproval event

/-- The error of a turn, as the prompt's result. -/
def turnError (event : ErrorEvent) : Error :=
  { Error.internalError with
    data := some (.object
      [("message", .string event.message),
       ("codex_error_info", match event.codexErrorInfo with
          | some info => .string info
          | none => .null)]) }

/-- End the prompt: nothing stays pending and every waiter gets the result. -/
def finish (result : PromptResult) (c : InSubmission) : InSubmission :=
  c.abortPendingInteractions.sendResult result

def executeBridgeEffect (effect : BridgeEffect) (c : InSubmission) : InSubmission :=
  { c with world := c.world.executeBridgeEffect effect }

/-- A forwarded event ends the prompt or is only rendered. -/
def handleForwardEvent : LiveForwardEvent → InSubmission → InSubmission
  | .effect effect => executeBridgeEffect effect
  | .turnComplete _ => finish (.ok .endTurn)
  | .error event => finish (.error (turnError event))
  | .turnAborted _ => finish (.ok .cancelled)
  | .shutdownComplete => finish (.ok .cancelled)
  | .agentMessageContentDelta _ | .reasoningContentDelta _ | .agentReasoningSectionBreak _
  | .agentMessage _ | .agentReasoning _ | .webSearchBegin _ | .webSearchEnd _ | .exec _
  | .guardianAssessment => id

def handleEvent (codex : Codex) (event : EventMsg) : InSubmission → InSubmission :=
  match routeLiveEvent event with
  | .forward event => handleForwardEvent event
  | .requestPermission event => handlePermissionEvent codex event
  | .ignore _ => id

end InSubmission

end CodexAcp.Thread
