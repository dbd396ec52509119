import CodexAcp.Lib.Dict
import CodexAcp.Lib.Run
import CodexAcp.Protocol.Event

/-!
# The agent's session handlers

The agent keeps a map from session ids to the threads it runs for them. Every
request is handled in a task of its own, so the handlers of new, load, resume,
fork, close and delete interleave at their `await` points: each one reads the
map, waits for Codex, and then inserts into the map or removes from it.

A handler in flight is a `Suspended` value: the `await` it stands at, with the
variables it needs after it. `CodexAgent.receive` runs a request to its first
`await`, `CodexAgent.resume` runs a handler from one `await` to the next one or to
its answer, and `CodexAgent.step` interleaves them. Two things are taken from the
world around the agent: a thread Codex starts, resumes or forks was never there
before, and a thread that is asked to shut down does.
-/

namespace CodexAcp.Agent

open CodexAcp.Lib CodexAcp.Protocol

abbrev SessionId := String
abbrev RequestId := Nat

/-- Which thread an `Arc<Thread>` points to. -/
abbrev ThreadRef := Nat

/-- What the handlers use of Codex's thread ids and of its state database. -/
structure ThreadStore where
  /-- `ThreadId::from_string`, with the text of its error. -/
  fromString : SessionId → Except String ThreadId
  /-- `ThreadId::to_string`. -/
  toString : ThreadId → SessionId
  fromString_toString : ∀ threadId, fromString (toString threadId) = .ok threadId
  hasStateDb : Bool

/-- Thread ids that are their own text, and no state database. -/
def plainStore : ThreadStore :=
  ⟨.ok, id, fun _ => rfl, false⟩

/-- A thread that was created for a session; it runs until it is shut down. -/
structure SessionThread where
  sessionId : SessionId
  running : Bool
  deriving DecidableEq

/-! ## Requests and where their handlers wait -/

/-- The requests that bring up a thread, with the session they name. -/
inductive Opening where
  | newSession
  | loadSession (id : SessionId)
  | resumeSession (id : SessionId)
  | forkSession (source : SessionId)
  deriving DecidableEq

inductive Request where
  | opening (request : Opening)
  | closeSession (id : SessionId)
  | deleteSession (id : SessionId)
  deriving DecidableEq

/-- The `await` a handler stands at, with what it needs afterwards. -/
inductive Suspended where
  | checkAuth (request : Opening)
  -- fork: the source's rollout is written out first
  | sourceThread (source : SessionId)
  | materializeRollout (source : SessionId)
  | flushRollout (source : SessionId)
  -- a thread is brought up and still belongs to the handler
  | threadPath (request : Opening)
  | rolloutHistory (id : SessionId)
  | sessionConfig (request : Opening)
  | startThread (request : Opening)
  | shutdownBridges (error : Error)
  | replayHistory (request : Opening) (id : SessionId) (thread : ThreadRef)
  | threadLoad (request : Opening) (id : SessionId) (thread : ThreadRef)
  | discard (id : SessionId) (thread : ThreadRef) (error : Error)
  -- load and resume of a session that is in the map
  | liveRolloutItems (id : SessionId) (thread : ThreadRef)
  | replaceClient (thread : ThreadRef) (replays : Bool)
  | liveReplay (thread : ThreadRef)
  | liveLoad (thread : ThreadRef)
  -- close; the second await keeps the thread only to say which one was shut down
  | closeShutdown (id : SessionId) (thread : ThreadRef)
  | closeRemoveThread (id : SessionId) (thread : ThreadRef)
  -- delete
  | deleteShutdown (id : SessionId) (thread : ThreadRef)
  | deleteRemoveThread (id : SessionId)
  | deletePath (id : SessionId) (deleted : Bool)
  | deleteFile (id : SessionId) (deleted : Bool)
  | deleteRows (deleted : Bool)

/-- What an `await` comes back with. -/
inductive Reply where
  /-- It succeeded, with nothing the handler branches on. -/
  | ok
  /-- A call within the adapter, or a check right after it, failed. -/
  | refused (error : Error)
  /-- A call into Codex or the file system failed with a text. -/
  | failed (text : String)
  /-- A lookup found something or nothing. -/
  | found (present : Bool)
  /-- Codex started, resumed or forked a thread. -/
  | started (threadId : ThreadId) (thread : ThreadRef)
  /-- So many rows were deleted. -/
  | rows (count : Nat)

/-- What a request is answered: the session new and fork opened, or nothing. -/
abbrev SessionResult := Except Error (Option SessionId)

/-! ## The agent -/

/-- The sessions map, the threads ever created, the handlers in flight and the
answers given. -/
structure CodexAgent where
  sessions : Dict SessionId ThreadRef := ∅
  threads : Dict ThreadRef SessionThread := ∅
  inFlight : Dict RequestId Suspended := ∅
  answers : List (RequestId × SessionResult) := []

namespace CodexAgent

/-- The handler waits at an `await`. -/
def suspend (n : RequestId) (at' : Suspended) (a : CodexAgent) : CodexAgent :=
  { a with inFlight := a.inFlight.insert n at' }

/-- The handler returns. -/
def answer (n : RequestId) (result : SessionResult) (a : CodexAgent) : CodexAgent :=
  { a with inFlight := a.inFlight.erase n, answers := a.answers ++ [(n, result)] }

def createThread (thread : ThreadRef) (id : SessionId) (a : CodexAgent) : CodexAgent :=
  { a with threads := a.threads.insert thread ⟨id, true⟩ }

def insertSessionThread (id : SessionId) (thread : ThreadRef) (a : CodexAgent) : CodexAgent :=
  { a with sessions := a.sessions.insert id thread }

def removeSession (id : SessionId) (a : CodexAgent) : CodexAgent :=
  { a with sessions := a.sessions.erase id }

/-- The thread is shut down. -/
def shutdown (thread : ThreadRef) (a : CodexAgent) : CodexAgent :=
  { a with
    threads := a.threads.mapValues fun ref t =>
      if ref = thread then { t with running := false } else t }

end CodexAgent

/-! ## The handlers, from one `await` to the next -/

namespace Opening

/-- The session a thread is brought up for: the one that was named, or the
thread's own. -/
def sessionId (store : ThreadStore) (threadId : ThreadId) : Opening → SessionId
  | newSession => store.toString threadId
  | forkSession _ => store.toString threadId
  | loadSession id => id
  | resumeSession id => id

/-- What the handler answers when the session is in the map. -/
def opened (id : SessionId) : Opening → Option SessionId
  | newSession => some id
  | forkSession _ => some id
  | loadSession _ => none
  | resumeSession _ => none

/-- The error of a thread Codex could not bring up; new keeps its cause to itself. -/
def startError (text : String) : Opening → Error
  | newSession => .internalError
  | _ => Error.internalError.withData text

end Opening

namespace CodexAgent

variable (store : ThreadStore)

/-- Past the check of the credentials. -/
def authorized (n : RequestId) (a : CodexAgent) : Opening → CodexAgent
  | .newSession => a.suspend n (.sessionConfig .newSession)
  | .loadSession id =>
    match a.sessions.lookup id with
    | some thread => a.suspend n (.liveRolloutItems id thread)
    | none => a.suspend n (.threadPath (.loadSession id))
  | .resumeSession id =>
    match a.sessions.lookup id with
    | some thread => a.suspend n (.replaceClient thread false)
    | none => a.suspend n (.threadPath (.resumeSession id))
  | .forkSession source =>
    match store.fromString source with
    | .error text => a.answer n (.error (Error.internalError.withData text))
    | .ok _ => a.suspend n (.sourceThread source)

/-- Past the search for the rollout. -/
def rolloutFound (n : RequestId) (a : CodexAgent) : Opening → CodexAgent
  | .loadSession id => a.suspend n (.rolloutHistory id)
  | request => a.suspend n (.sessionConfig request)

/-- Past the start of the thread; load replays the rollout into it first. -/
def threadStarted (n : RequestId) (thread : ThreadRef) (id : SessionId) (a : CodexAgent)
    (request : Opening) : CodexAgent :=
  let a := a.createThread thread id
  match request with
  | .loadSession _ => a.suspend n (.replayHistory request id thread)
  | _ => a.suspend n (.threadLoad request id thread)

/-- The end of a delete, once all its parts were looked for. -/
def finishDelete (n : RequestId) (deleted : Bool) (a : CodexAgent) : CodexAgent :=
  if deleted then a.answer n (.ok none) else a.answer n (.error .resourceNotFound)

/-- Past the rollout file of a delete. -/
def fileDeleted (n : RequestId) (deleted : Bool) (a : CodexAgent) : CodexAgent :=
  if store.hasStateDb then a.suspend n (.deleteRows deleted) else a.finishDelete n deleted

/-- Run a request to its first `await`. -/
def receive (n : RequestId) (a : CodexAgent) : Request → CodexAgent
  | .opening request => a.suspend n (.checkAuth request)
  | .closeSession id =>
    match a.sessions.lookup id with
    | none => a.answer n (.error .resourceNotFound)
    | some thread => a.suspend n (.closeShutdown id thread)
  | .deleteSession id =>
    match store.fromString id with
    | .error text => a.answer n (.error (Error.internalError.withData text))
    | .ok _ =>
      match a.sessions.lookup id with
      | none => a.suspend n (.deletePath id false)
      | some thread => (a.removeSession id).suspend n (.deleteShutdown id thread)

/-- Run a handler from the `await` it stands at. A shutdown comes back with
`ok` only, and a thread Codex hands out is not one of the threads there are. -/
def resume (n : RequestId) (a : CodexAgent) : Suspended → Reply → Option CodexAgent
  | .checkAuth request, .ok => some (a.authorized store n request)
  | .checkAuth _, .refused error => some (a.answer n (.error error))
  | .sourceThread source, .found true => some (a.suspend n (.materializeRollout source))
  | .sourceThread source, .found false => some (a.suspend n (.threadPath (.forkSession source)))
  | .materializeRollout source, .ok => some (a.suspend n (.flushRollout source))
  | .flushRollout source, .ok => some (a.suspend n (.threadPath (.forkSession source)))
  | .flushRollout _, .failed text => some (a.answer n (.error (Error.internalError.withData text)))
  | .threadPath request, .found true => some (a.rolloutFound n request)
  | .threadPath _, .found false => some (a.answer n (.error .resourceNotFound))
  | .threadPath _, .failed text => some (a.answer n (.error (Error.internalError.withData text)))
  | .threadPath (.forkSession _), .refused error => some (a.answer n (.error error))
  | .rolloutHistory id, .ok => some (a.suspend n (.sessionConfig (.loadSession id)))
  | .rolloutHistory _, .failed text =>
    some (a.answer n (.error (Error.internalError.withData text)))
  | .sessionConfig request, .ok => some (a.suspend n (.startThread request))
  | .sessionConfig _, .refused error => some (a.answer n (.error error))
  | .startThread request, .started threadId thread =>
    match a.threads.lookup thread with
    | some _ => none
    | none => some (a.threadStarted n thread (request.sessionId store threadId) request)
  | .startThread request, .failed text =>
    some (a.suspend n (.shutdownBridges (request.startError text)))
  | .shutdownBridges error, .ok => some (a.answer n (.error error))
  | .replayHistory request id thread, .ok => some (a.suspend n (.threadLoad request id thread))
  | .replayHistory _ id thread, .refused error => some (a.suspend n (.discard id thread error))
  | .threadLoad request id thread, .ok =>
    some ((a.insertSessionThread id thread).answer n (.ok (request.opened id)))
  | .threadLoad _ id thread, .refused error => some (a.suspend n (.discard id thread error))
  | .discard _ thread error, .ok => some ((a.shutdown thread).answer n (.error error))
  | .liveRolloutItems _ thread, .found nonempty => some (a.suspend n (.replaceClient thread nonempty))
  | .replaceClient thread true, .ok => some (a.suspend n (.liveReplay thread))
  | .replaceClient thread false, .ok => some (a.suspend n (.liveLoad thread))
  | .replaceClient _ _, .refused error => some (a.answer n (.error error))
  | .liveReplay thread, .ok => some (a.suspend n (.liveLoad thread))
  | .liveReplay _, .refused error => some (a.answer n (.error error))
  | .liveLoad _, .ok => some (a.answer n (.ok none))
  | .liveLoad _, .refused error => some (a.answer n (.error error))
  | .closeShutdown id thread, .ok =>
    match store.fromString id with
    | .error text =>
      some ((a.shutdown thread).answer n (.error (Error.internalError.withData text)))
    | .ok _ => some ((a.shutdown thread).suspend n (.closeRemoveThread id thread))
  | .closeRemoveThread id _, .ok => some ((a.removeSession id).answer n (.ok none))
  | .deleteShutdown id thread, .ok => some ((a.shutdown thread).suspend n (.deleteRemoveThread id))
  | .deleteRemoveThread id, .ok => some (a.suspend n (.deletePath id true))
  | .deletePath id deleted, .found true => some (a.suspend n (.deleteFile id deleted))
  | .deletePath _ deleted, .found false => some (a.fileDeleted store n deleted)
  | .deletePath _ _, .failed text => some (a.answer n (.error (Error.internalError.withData text)))
  | .deleteFile _ _, .ok => some (a.fileDeleted store n true)
  | .deleteFile _ deleted, .found false => some (a.fileDeleted store n deleted)
  | .deleteFile _ _, .failed text =>
    some (a.answer n (.error
      (Error.internalError.withData ("failed to delete rollout file: " ++ text))))
  | .deleteRows deleted, .rows count => some (a.finishDelete n (deleted || decide (0 < count)))
  | .deleteRows _, .failed text => some (a.answer n (.error (Error.internalError.withData text)))
  | _, _ => none

end CodexAgent

/-! ## Interleavings -/

/-- A step of the agent: a request comes in, or a handler goes on. -/
inductive Label where
  | receive (n : RequestId) (request : Request)
  | resume (n : RequestId) (reply : Reply)

namespace CodexAgent

/-- A request comes in under an id that no request in flight has. -/
def step (store : ThreadStore) (a : CodexAgent) : Label → Option CodexAgent
  | .receive n request =>
    match a.inFlight.lookup n with
    | some _ => none
    | none => some (a.receive store n request)
  | .resume n reply =>
    match a.inFlight.lookup n with
    | some at' => a.resume store n at' reply
    | none => none

/-- No handler is in flight. -/
def Quiet (a : CodexAgent) : Prop := ∀ n, a.inFlight.lookup n = none

end CodexAgent

end CodexAcp.Agent
