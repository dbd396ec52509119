import CodexAcp.Lib.Handler
import CodexAcp.Thread.ActorState

/-!
# The world of a session actor

Everything an actor's handlers touch besides the actor's own memory:

- the Codex thread, as the number of calls made so far and the list of ops it
  accepted, each with the id it gave the submission;
- the configuration file, as the service tiers written to it;
- the editor, as the notifications and replies sent to it;
- the permission tasks: one for each permission request put to the user, from
  the request to the message that carries the response back to the actor;
- the prompt waiters: the receiving ends handed to callers of a prompt, which
  of them are closed, and the results delivered.

A permission task passes through `waiting` (the request is with the user),
`responded` (it is past its last suspension point and will send its message
whatever happens) and `finished`. Aborting a task cancels it only while it is
waiting; this is the point of the state in between.
-/

namespace CodexAcp.Thread

open CodexAcp.Lib CodexAcp.Protocol CodexAcp.Boundary

abbrev TaskId := Nat
abbrev WaiterId := Nat

/-- What a permission request came back with. -/
abbrev PermissionResult := Except Error RequestPermissionResponse

inductive TaskState where
  | waiting
  | responded (response : PermissionResult)
  | finished
  | aborted

/-- A permission task: the submission and the request it was spawned for. -/
structure Task where
  submissionId : String
  request : PermissionInteractionRequest
  state : TaskState

/-- Cancel a task at its suspension point; past it, nothing happens. -/
def Task.abort (t : Task) : Task :=
  match t.state with
  | .waiting => { t with state := .aborted }
  | _ => t

/-- The message a permission task sends to the actor. -/
structure PermissionRequestResolved where
  submissionId : String
  requestKey : String
  response : PermissionResult

/-- The outcome of a steering request. -/
inductive SteeringOutcome where
  | injected
  | startedNewTurn
  | failed
  deriving DecidableEq, Repr

/-- What the actor answers a message with. -/
inductive Reply where
  | load (result : Except Error LoadSessionResponse)
  | configOptions (result : Except Error (List SessionConfigOption))
  | prompt (result : Except Error WaiterId)
  | steer (result : Except Error SteeringOutcome)
  | done (result : Except Error Unit)

/-- The result of a prompt. -/
abbrev PromptResult := Except Error StopReason

structure World where
  models : ModelsManager
  calls : Nat := 0
  accepted : List (Op × String) := []
  /-- The service tiers written to the configuration file, oldest first. -/
  savedTiers : List (Option String) := []
  sent : List SessionUpdate := []
  replies : List Reply := []
  tasks : List Task := []
  /-- The messages of permission tasks not yet handled, each with its sender. -/
  resolutions : List (TaskId × PermissionRequestResolved) := []
  waiters : Nat := 0
  closed : List WaiterId := []
  results : List (WaiterId × PromptResult) := []

/-- Cancel several tasks, one after the other. -/
def abortAll (ns : List TaskId) (tasks : List Task) : List Task :=
  ns.foldl (fun tasks n => tasks.modify n Task.abort) tasks

namespace World

/-! ## Calls -/

/-- Make a call that Codex or the system may refuse. -/
def call {ε α : Type} (f : Nat → Except ε α) : Handler World ε α := fun w =>
  (f w.calls, { w with calls := w.calls + 1 })

/-- Submit an op; an accepted one is recorded with the id it was given. -/
def submit (codex : Codex) (op : Op) : Handler World String String := fun w =>
  match codex.submit w.calls op with
  | .ok id => (.ok id, { w with calls := w.calls + 1, accepted := w.accepted ++ [(op, id)] })
  | .error e => (.error e, { w with calls := w.calls + 1 })

/-- Submit an op whose id is of no interest. -/
def submitOk (codex : Codex) (op : Op) : Handler World Error Unit := do
  let _ ← Handler.mapError Error.fromAnyhow (submit codex op)

/-- Edit the service tier in the configuration file; an edit that succeeded is recorded. -/
def editServiceTier (codex : Codex) (value : Option String) : Handler World Error Unit := fun w =>
  match codex.editServiceTier w.calls value with
  | .ok () => (.ok (), { w with calls := w.calls + 1, savedTiers := w.savedTiers ++ [value] })
  | .error e => (.error (Error.fromAnyhow e), { w with calls := w.calls + 1 })

def sendNotification (update : SessionUpdate) (w : World) : World :=
  { w with sent := w.sent ++ [update] }

/-- Send what an effect forwards, if it is content the model follows. -/
def executeBridgeEffect : BridgeEffect → World → World
  | .forward update => sendNotification update
  | .rendered => id

def reply (reply : Reply) (w : World) : World := { w with replies := w.replies ++ [reply] }

/-! ## Permission tasks -/

def abortTasks (ns : List TaskId) (w : World) : World :=
  { w with tasks := abortAll ns w.tasks }

/-- Start a task; its id is the number of tasks started before it. -/
def spawnTask (task : Task) (w : World) : World := { w with tasks := w.tasks ++ [task] }

/-- The client responds to a waiting task's request. -/
def respond (n : TaskId) (response : PermissionResult) (w : World) : Option World :=
  match w.tasks[n]? with
  | some { state := .waiting, .. } =>
    some { w with tasks := w.tasks.modify n fun t => { t with state := .responded response } }
  | _ => none

/-- A task that was responded to sends its message and ends. -/
def sendResolved (n : TaskId) (w : World) : Option World :=
  match w.tasks[n]? with
  | some { submissionId, request, state := .responded response } =>
    some
      { w with
        tasks := w.tasks.modify n fun t => { t with state := .finished }
        resolutions := w.resolutions ++ [(n, ⟨submissionId, request.requestKey, response⟩)] }
  | _ => none

/-! ## Prompt waiters -/

/-- Send a result to a waiter; nothing arrives at a closed receiver. -/
def sendResult (result : PromptResult) (w : World) (waiter : WaiterId) : World :=
  if waiter ∈ w.closed then w else { w with results := w.results ++ [(waiter, result)] }

end World

/-! ## Waiters of a submission -/

/-- The waiters registered with a submission: the caller of the prompt that
started it, and the callers whose prompts answered a question of it. -/
structure PromptResponses where
  primary : Option WaiterId
  additional : List WaiterId
  deriving DecidableEq, Repr

namespace PromptResponses

def ofPrimary (waiter : WaiterId) : PromptResponses := ⟨some waiter, []⟩

def replay : PromptResponses := ⟨none, []⟩

/-- Some registered waiter still has its receiver open. -/
def isActive (r : PromptResponses) (w : World) : Bool :=
  r.primary.any (fun waiter => waiter ∉ w.closed) || r.additional.any fun waiter => waiter ∉ w.closed

def add (r : PromptResponses) (waiter : WaiterId) : PromptResponses :=
  { r with additional := r.additional ++ [waiter] }

/-- Every registered waiter, the primary one first. -/
def all (r : PromptResponses) : List WaiterId := r.primary.toList ++ r.additional

/-- Send a result to every registered waiter; none stays registered. -/
def send (r : PromptResponses) (result : PromptResult) (w : World) : PromptResponses × World :=
  (⟨none, []⟩, r.all.foldl (World.sendResult result) w)

end PromptResponses

end CodexAcp.Thread
