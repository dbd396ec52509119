import CodexAcp.Lib.Run
import CodexAcp.Boundary.ReplayItem
import CodexAcp.Thread.ActorPrompt

/-!
# The actor

The handlers of messages, events and permission responses, and the loop that
calls them. One turn of the loop polls three sources in a fixed order: the
messages, the permission responses already queued, and the events of the Codex
thread; whatever it handled, it then collects the submissions nobody waits for.

The poll of the queued responses and the poll of the events are two moments: a
permission task on another worker may queue its response in between. The loop
therefore has three points (`LoopPoint`), and an event is handled only after the
queue was found empty. Tasks, clients and callers act at every point.

Where the source answers a message through a channel, here a reply is written down in
the world. The loop of the source stops when Codex hands out no further event, or when
nobody is left who could send a message and no submission is held; a run is what
happens before that. What a submission keeps of its tools is not here
(`Thread.HeldTools`), and nothing is logged.
-/

namespace CodexAcp.Thread

open CodexAcp.Lib CodexAcp.Protocol CodexAcp.Boundary

/-- The requests a session actor handles. -/
inductive ThreadMessage where
  | load
  | getConfigOptions
  | prompt (request : PromptRequest)
  | steer (request : PromptRequest)
  | controlGoal (action : GoalControlAction)
  | setMode (mode : SessionModeId)
  | setConfigOption (configId : SessionConfigId) (value : SessionConfigOptionValue)
  | cancel
  | shutdown
  | replaceClient
  | replayHistory (history : List RolloutItem)

namespace ThreadActor

/-! ## Events -/

/-- Approve without asking, when the session has no sandbox. Returns whether the
event was dealt with. -/
def maybeAutoApprovePermissionRequest (codex : Codex) (autoApproval : Option ActorAutoApproval)
    (a : ThreadActor) : Bool × ThreadActor :=
  if a.config.permissions.permissionProfile ≠ .disabled then (false, a)
  else
    match autoApproval with
    | none => (false, a)
    -- A refused submit is logged and nothing else.
    | some autoApproval => (true, (submitOk codex autoApproval.intoOp a).2)

def handleEvent (codex : Codex) (event : Event) (a : ThreadActor) : ThreadActor :=
  let plan := planActorEvent event.msg
  -- A goal the state already holds ends the handling here: its updates are not applied and no
  -- submission sees the event.
  if plan.goalSnapshot.any a.state.isCurrentGoal then a
  else
    let a := { a with state := a.state.applyEventUpdates plan.stateUpdates }
    match plan.action with
    | .registerPendingUserInput request => a.registerPendingUserInput codex event.id request
    | .routeToSubmission clearPendingUserInput fullAccessAutoApproval =>
      match a.maybeAutoApprovePermissionRequest codex fullAccessAutoApproval with
      | (true, a) => a
      | (false, a) =>
        let a := a.onSubmission event.id (InSubmission.handleEvent codex event.msg)
        match clearPendingUserInput with
        | .submission =>
          { a with state := a.state.clearPendingUserInputForSubmission event.id }
        | .none => a

/-! ## Replay -/

def replayEventPlan (codex : Codex) (plan : ReplayEventPlan) (a : ThreadActor) : ThreadActor :=
  let a := { a with state := a.state.applyEventUpdates plan.stateUpdates }
  match plan.action with
  | .effect effect => { a with world := a.world.executeBridgeEffect effect }
  | .registerPendingUserInput turnId event => a.registerPendingUserInput codex turnId event
  | .clearPendingUserInputForSubmission turnId =>
    { a with state := a.state.clearPendingUserInputForSubmission turnId }
  | .clearPendingUserInput => a.clearPendingUserInput
  | .ignore => a

def replayResponseItem (codex : Codex) (route : ReplayResponseItemRoute) (a : ThreadActor) :
    ThreadActor :=
  match replayResponseItemPlan (codex.newUuid a.world.sent.length) route with
  | .effect effect => { a with world := a.world.executeBridgeEffect effect }
  | .ignore _ => a

theorem replayResponseItem_eq (codex : Codex) (route : ReplayResponseItemRoute)
    (a : ThreadActor) :
    a.replayResponseItem codex route =
      { a with
        world :=
          { a.world with
            sent := a.world.sent ++
              (replayResponseItemPlan (codex.newUuid a.world.sent.length) route).updates } } := by
  unfold replayResponseItem
  cases replayResponseItemPlan (codex.newUuid a.world.sent.length) route with
  | effect effect =>
    cases effect with
    | forward update => rfl
    | rendered => rw [show ReplayResponseItemPlan.updates _ = [] from rfl, List.append_nil]; rfl
  | ignore reason => rw [show ReplayResponseItemPlan.updates _ = [] from rfl, List.append_nil]

def replayItem (codex : Codex) (a : ThreadActor) : RolloutItem → ThreadActor
  | .eventMsg event => a.replayEventPlan codex (routeReplayEventMsg event)
  | .responseItem item => a.replayResponseItem codex (routeReplayResponseItem item)
  | .stateOnly => a

def handleReplayHistory (codex : Codex) (history : List RolloutItem) (a : ThreadActor) :
    ThreadActor :=
  history.foldl (replayItem codex) a

/-! ## Messages -/

def handleCancel (codex : Codex) : Handler ThreadActor Error Unit := do
  Handler.update abortPendingInteractions
  submitOk codex .interrupt

def handleShutdown (codex : Codex) : Handler ThreadActor Error Unit := do
  Handler.update abortPendingInteractions
  submitOk codex .shutdown

/-- Run a handler and answer with its result. -/
def answer {α : Type} (toReply : Except Error α → Reply) (x : Handler ThreadActor Error α)
    (a : ThreadActor) : ThreadActor :=
  let (result, a) := x a
  { a with world := a.world.reply (toReply result) }

def handleMessage (codex : Codex) (message : ThreadMessage) (a : ThreadActor) : ThreadActor :=
  match message with
  | .load => a.answer .load (handleLoad codex)
  | .getConfigOptions => a.answer .configOptions (Handler.reads (configOptions codex))
  | .prompt request => a.answer .prompt (handlePrompt codex request)
  | .steer request => a.answer .steer (handleSteer codex request)
  | .controlGoal action => a.answer .done (handleGoalControl codex action)
  -- The options are looked at whether the mode was set or not.
  | .setMode mode => (a.answer .done (handleSetMode codex mode)).maybeEmitConfigOptionsUpdate codex
  | .setConfigOption configId value =>
    a.answer .done (handleSetConfigOption codex configId value)
  | .cancel => a.answer .done (handleCancel codex)
  | .shutdown => a.answer .done (handleShutdown codex)
  -- The sender of notifications is swapped; what is remembered of the old client stays.
  | .replaceClient => a.answer .done (pure ())
  | .replayHistory history =>
    a.answer .done (Handler.update (handleReplayHistory codex history))

/-- A permission response: resolve it in its submission, if the actor still
holds one. A failed response or a refused op ends the prompt with the error. -/
def handlePermissionRequestResolved (codex : Codex) (message : PermissionRequestResolved)
    (a : ThreadActor) : ThreadActor :=
  a.onSubmission message.submissionId (InSubmission.orFail
    (InSubmission.handlePermissionRequestResolved codex message.requestKey message.response))

/-- Collect the submissions whose waiters are all gone; the one that waits for
user input stays. -/
def collect (a : ThreadActor) : ThreadActor :=
  { a with
    submissions := a.submissions.retain fun id p =>
      p.isActive a.world || a.state.pendingSubmissionId = some id }

end ThreadActor

/-! ## The loop -/

/-- Where the loop is: before its polls, past an empty queue of responses, or
past a handler. -/
inductive LoopPoint where
  | select
  | noResolution
  | collect
  deriving DecidableEq, Repr

/-- An actor in its loop. -/
structure Running where
  actor : ThreadActor
  point : LoopPoint := .select

/-- A step of the actor or of the world around it. -/
inductive Label where
  /-- A message arrives and is handled. -/
  | message (message : ThreadMessage)
  /-- The oldest queued permission response is handled. -/
  | resolution
  /-- The queue of permission responses is found empty. -/
  | noResolution
  /-- An event arrives and is handled. -/
  | event (event : Event)
  /-- Nothing arrived: the loop is woken and polls again. -/
  | wake
  /-- The submissions nobody waits for are collected. -/
  | collect
  /-- The client responds to a permission request. -/
  | respond (task : TaskId) (response : PermissionResult)
  /-- A permission task queues the response it got. -/
  | send (task : TaskId)
  /-- A caller drops the receiver of its prompt's result. -/
  | closeReceiver (waiter : WaiterId)
  /-- The models manager has other answers. -/
  | modelsChanged (models : ModelsManager)

namespace Running

/-- A session actor as it is spawned. -/
def start (config : Config) (models : ModelsManager) : Running :=
  { actor := { config := config, world := { models := models } } }

/-- The loop's own steps move its point; the others leave it alone. -/
def step (codex : Codex) (r : Running) : Label → Option Running
  | .message message =>
    if r.point = .select then
      some ⟨r.actor.handleMessage codex message, .collect⟩
    else none
  | .resolution =>
    match r.point, r.actor.world.resolutions with
    | .select, (_, message) :: rest =>
      let a := { r.actor with world := { r.actor.world with resolutions := rest } }
      some ⟨a.handlePermissionRequestResolved codex message, .collect⟩
    | _, _ => none
  | .noResolution =>
    match r.point, r.actor.world.resolutions with
    | .select, [] => some { r with point := .noResolution }
    | _, _ => none
  | .event event =>
    if r.point = .noResolution then some ⟨r.actor.handleEvent codex event, .collect⟩ else none
  | .wake => if r.point = .noResolution then some { r with point := .select } else none
  | .collect => if r.point = .collect then some ⟨r.actor.collect, .select⟩ else none
  | .respond task response =>
    (r.actor.world.respond task response).map fun w => { r with actor := { r.actor with world := w } }
  | .send task =>
    (r.actor.world.sendResolved task).map fun w => { r with actor := { r.actor with world := w } }
  | .closeReceiver waiter =>
    if waiter < r.actor.world.waiters then
      let w := { r.actor.world with closed := waiter :: r.actor.world.closed }
      some { r with actor := { r.actor with world := w } }
    else none
  | .modelsChanged models =>
    some { r with actor := { r.actor with world := { r.actor.world with models := models } } }

/-- Codex gives an op it accepts an id that no submission held has. -/
def freshIds (r r' : Running) : Bool :=
  (r'.actor.world.accepted.drop r.actor.world.accepted.length).all fun o =>
    (r.actor.submissions.lookup o.2).isNone

end Running

/-! ## Sample runs -/

/-- A prompt is running and the user is asked for the first approval of a call. -/
def firstApproval : List Label :=
  [.message (.prompt ⟨[.text "go"]⟩), .collect, .noResolution,
   .event (.sampleApproval "first"), .collect]

/-- The second approval is asked for after the first one was answered. -/
def oneAfterTheOther : List Label :=
  firstApproval ++
    [.respond 0 (.ok ⟨.selected "approved"⟩), .send 0, .resolution, .collect, .noResolution,
     .event (.sampleApproval "second"), .collect, .respond 1 (.ok ⟨.cancelled⟩), .send 1,
     .resolution]

end CodexAcp.Thread
