import CodexAcp.Agent.SessionConfig
import CodexAcp.Agent.Sessions
import CodexAcp.Boundary.Mapper

/-!
# Opening a session, step by step

New, load, resume and fork bring a thread up in the same way: build the session's
configuration, let Codex start the thread, load it, and put it into the sessions
map. Every step may fail, and what was there before the failed step has to be taken
down again: the bridges, and the thread.

The handlers here run by themselves, with everything they touch: the bridges, the
threads Codex's `ThreadManager` knows, the sessions map. The outcome of a call the
agent makes is a function of how many it made before. Until the thread is brought up
and after it was loaded they are quiet: `openSession_induction` says of a request what
holds of the quiet handlers and of the part in between.
-/

namespace CodexAcp.Agent

open CodexAcp.Lib CodexAcp.Protocol CodexAcp.Boundary

/-! ## The agent and its world -/

/-- A thread that was created for a session. -/
structure HostedThread where
  thread : ThreadRef
  threadId : ThreadId
  mcpBridges : List BridgeHandle
  deriving DecidableEq

/-- What opening a session reads and writes. Threads are numbered as Codex brings them
up, so the ones its `ThreadManager` knows have a number below the next one. -/
structure SessionHost where
  auth : AuthState := {}
  sessions : Dict SessionId HostedThread := ∅
  /-- The threads of the `ThreadManager`. -/
  registry : Dict ThreadId ThreadRef := ∅
  threads : ThreadRef := 0
  bridges : BridgeState := {}
  calls : Nat := 0
  registry_lt : ∀ threadId thread, registry.lookup threadId = some thread → thread < threads

/-- The history of a rollout. -/
inductive InitialHistory where
  | resumed (history : List RolloutItem)
  | forked (items : List RolloutItem)
  | cleared
  | new

def rolloutItemsFromHistory : InitialHistory → List RolloutItem
  | .resumed history => history
  | .forked items => items
  | .cleared | .new => []

/-- The outcomes of the calls that opening a session makes. -/
structure HostEnv where
  session : SessionEnv
  store : ThreadStore
  /-- Whether a lock is poisoned. -/
  gatewayPoisoned : Nat → Bool
  sessionsPoisoned : Nat → Bool
  /-- `AuthManager::reload`. -/
  reload : Nat → Bool
  findThreadPath : Nat → Except String (Option String)
  getRolloutHistory : Nat → Except String InitialHistory
  flushRollout : Nat → Except String Unit
  /-- `start_thread`, `resume_thread_from_rollout` and `fork_thread`. -/
  bringUp : Opening → Nat → Except String ThreadId
  /-- What the thread's actor answers. -/
  replayHistory : Nat → Except Error Unit
  load : Nat → Except Error LoadSessionResponse
  replaceClient : Nat → Except Error Unit
  shutdown : Nat → Except Error Unit

/-- What the client asks a session to be opened with. -/
structure OpeningParams where
  cwd : String
  additionalDirectories : List String := []
  mcpServers : List McpServer := []
  metadata : Option Meta := none

/-- The session a request opened, for a request that does not name it, and how it is
configured. -/
structure OpenedSession where
  sessionId : Option SessionId
  load : LoadSessionResponse

namespace SessionHost

/-! ## Calls -/

/-- Make a call and read its outcome. -/
def call {α : Type} (f : Nat → α) : Handler SessionHost Error α := fun s =>
  (.ok (f s.calls), { s with calls := s.calls + 1 })

/-- Make a call that may be refused. -/
def tryCall {ε α : Type} (f : Nat → Except ε α) : Handler SessionHost ε α := fun s =>
  (f s.calls, { s with calls := s.calls + 1 })

/-- A text of Codex, as an error with data. -/
def internalError (text : String) : Error := Error.internalError.withData text

def onBridges {α : Type} (x : Handler BridgeState Error α) : Handler SessionHost Error α :=
  Handler.zoom (·.bridges) (fun bridges s => { s with bridges }) x

def shutdownMcpBridges (bridges : List BridgeHandle) : Handler SessionHost Error Unit :=
  onBridges (BridgeState.shutdownMcpBridges bridges)

section Handlers

variable (env : HostEnv)

/-- Take a lock, unless a task panicked while it held it. -/
def takeLock (poisoned : Nat → Bool) (stateName : String) : Handler SessionHost Error Unit :=
  tryCall fun n =>
    if poisoned n then .error (internalError (stateName ++ " state is poisoned")) else .ok ()

def gatewayAuth : Handler SessionHost Error (Option GatewayAuthConfig) := do
  takeLock env.gatewayPoisoned "gateway auth"
  Handler.reads (·.auth.gatewayAuth)

def checkAuth : Handler SessionHost Error Unit := do
  let gateway ← gatewayAuth env
  if gateway.isSome then pure ()
  else do
    let auth ← Handler.reads (·.auth)
    let reloaded ← call env.reload
    -- No gateway: the credential decides, after one more look at the store.
    Handler.lift (auth.checkAuth env.session.config.modelProviderId reloaded)

def lookupSession (id : SessionId) : Handler SessionHost Error (Option HostedThread) := do
  takeLock env.sessionsPoisoned "sessions"
  Handler.reads (·.sessions.lookup id)

def insertSessionThread (id : SessionId) (thread : HostedThread) :
    Handler SessionHost Error Unit := do
  takeLock env.sessionsPoisoned "sessions"
  Handler.update fun s => { s with sessions := s.sessions.insert id thread }

/-! ## Bringing a thread up -/

def buildConfig (params : OpeningParams) (additionalDirectories : List String) :
    Handler SessionHost Error SessionConfigBuild := do
  -- Reading the gateway may fail; the build says when that is noticed.
  let gateway ← Handler.attempt (gatewayAuth env)
  onBridges (buildSessionConfig env.session gateway params.cwd additionalDirectories
    params.mcpServers)

/-- The `ThreadManager` brings a thread up and keeps it under its id. -/
def register (threadId : ThreadId) : Handler SessionHost Error (ThreadId × ThreadRef) := fun s =>
  (.ok (threadId, s.threads),
    { s with
      registry := s.registry.insert threadId s.threads
      threads := s.threads + 1
      registry_lt := by
        intro id thread h
        rcases Dict.lookup_insert_eq_some.mp h with ⟨_, rfl⟩ | ⟨_, h⟩
        · exact Nat.lt_succ_self _
        · exact Nat.lt_succ_of_lt (s.registry_lt id thread h) })

def bringUp (request : Opening) : Handler SessionHost Error (ThreadId × ThreadRef) := do
  let threadId ← Handler.mapError request.startError (tryCall (env.bringUp request))
  register threadId

/-- Shut a thread down: whatever its actor answers, its bridges are shut down too. -/
def shutdown (thread : HostedThread) : Handler SessionHost Error Unit := do
  -- The actor's answer is kept until the bridges are down.
  let result ← Handler.attempt (tryCall env.shutdown)
  shutdownMcpBridges thread.mcpBridges
  Handler.lift result

/-- From the configuration to the sessions map. A step that fails takes down what is
there: the bridges, or the thread with its bridges. -/
def openThread (request : Opening) (params : OpeningParams) (additionalDirectories : List String)
    (replays : Bool) : Handler SessionHost Error (HostedThread × OpenedSession) := do
  let build ← buildConfig env params additionalDirectories
  let (threadId, ref) ← Handler.onError (bringUp env request)
    (shutdownMcpBridges build.mcpBridges)
  let id := request.sessionId env.store threadId
  let thread : HostedThread := { thread := ref, threadId, mcpBridges := build.mcpBridges }
  -- Only a load replays the history before it asks the actor for its settings.
  Handler.onlyIf replays (Handler.onError (tryCall env.replayHistory) (shutdown env thread))
  let load ← Handler.onError (tryCall env.load) (shutdown env thread)
  Handler.onError (insertSessionThread env id thread) (shutdown env thread)
  pure (thread, { sessionId := request.opened id, load })

/-! ## The handlers -/

/-- `find_thread_path_by_id_str`, of a rollout that must be there. -/
def threadPath : Handler SessionHost Error String := do
  let path ← Handler.mapError internalError (tryCall env.findThreadPath)
  match path with
  | some path => pure path
  | none => Handler.fail .resourceNotFound

/-- What is replayed into a live session: its rollout, if it can be read. -/
def liveSessionRolloutItems : Handler SessionHost Error (List RolloutItem) := do
  let path ← call env.findThreadPath
  match path with
  | .ok (some _) => do
    let history ← call env.getRolloutHistory
    match history with
    | .ok history => pure (rolloutItemsFromHistory history)
    | .error _ => pure []
  | .ok none | .error _ => pure []

def readDirectories (params : OpeningParams) : Handler SessionHost Error (List String) :=
  Handler.lift (readAdditionalDirectories env.session.lib params.cwd
    params.additionalDirectories params.metadata)

def newSession (params : OpeningParams) : Handler SessionHost Error OpenedSession := do
  checkAuth env
  let additionalDirectories ← readDirectories env params
  Prod.snd <$> openThread env .newSession params additionalDirectories false

/-- A session that is in the map gets a new client, and its rollout once more. -/
def loadLive : Handler SessionHost Error OpenedSession := do
  let rolloutItems ← liveSessionRolloutItems env
  tryCall env.replaceClient
  Handler.onlyIf (!rolloutItems.isEmpty) (tryCall env.replayHistory)
  let load ← tryCall env.load
  pure { sessionId := none, load }

def loadSession (id : SessionId) (params : OpeningParams) :
    Handler SessionHost Error OpenedSession := do
  checkAuth env
  let additionalDirectories ← readDirectories env params
  let existing ← lookupSession env id
  if existing.isSome then loadLive env
  else do
    let _ ← threadPath env
    let _ ← Handler.mapError internalError (tryCall env.getRolloutHistory)
    Prod.snd <$> openThread env (.loadSession id) params additionalDirectories true

/-- A session that is in the map gets a new client. -/
def resumeLive : Handler SessionHost Error OpenedSession := do
  tryCall env.replaceClient
  let load ← tryCall env.load
  pure { sessionId := none, load }

def resumeSession (id : SessionId) (params : OpeningParams) :
    Handler SessionHost Error OpenedSession := do
  checkAuth env
  let additionalDirectories ← readDirectories env params
  let existing ← lookupSession env id
  if existing.isSome then resumeLive env
  else do
    let _ ← threadPath env
    Prod.snd <$> openThread env (.resumeSession id) params additionalDirectories false

/-- Write out the rollout of the thread that is forked, if it is running. -/
def flushSource (source : SessionId) : Handler SessionHost Error Unit := do
  let threadId ← Handler.lift ((env.store.fromString source).mapError internalError)
  let running ← Handler.reads (·.registry.lookup threadId)
  Handler.onlyIf running.isSome (Handler.mapError internalError (tryCall env.flushRollout))

def forkSession (source : SessionId) (params : OpeningParams) :
    Handler SessionHost Error OpenedSession := do
  checkAuth env
  flushSource env source
  let _ ← threadPath env
  let additionalDirectories ← readDirectories env params
  Prod.snd <$> openThread env (.forkSession source) params additionalDirectories false

/-- Handle a request that opens a session. -/
def openSession (params : OpeningParams) : Opening → Handler SessionHost Error OpenedSession
  | .newSession => newSession env params
  | .loadSession id => loadSession env id params
  | .resumeSession id => resumeSession env id params
  | .forkSession source => forkSession env source params

end Handlers

/-! ## What the steps leave alone -/

/-- Nothing was done to the bridges, the sessions and the threads. -/
structure Quiet (s t : SessionHost) : Prop where
  bridges : t.bridges = s.bridges
  sessions : t.sessions = s.sessions
  registry : t.registry = s.registry
  threads : t.threads = s.threads

theorem quiet_refl (s : SessionHost) : Quiet s s := ⟨rfl, rfl, rfl, rfl⟩

theorem Quiet.trans {s t u : SessionHost} (h : Quiet s t) (h' : Quiet t u) : Quiet s u :=
  ⟨h'.bridges.trans h.bridges, h'.sessions.trans h.sessions, h'.registry.trans h.registry,
    h'.threads.trans h.threads⟩

section Frames

open Handler

variable {env : HostEnv}

theorem quiet_bind {ε α β : Type} {x : Handler SessionHost ε α} {f : α → Handler SessionHost ε β}
    (hx : Frame Quiet x) (hf : ∀ a, Frame Quiet (f a)) : Frame Quiet (x >>= f) :=
  frame_bind (R := Quiet) Quiet.trans hx hf

theorem call_quiet {α : Type} (f : Nat → α) : Frame Quiet (call f) := fun _ => ⟨rfl, rfl, rfl, rfl⟩

theorem tryCall_quiet {ε α : Type} (f : Nat → Except ε α) : Frame Quiet (tryCall f) :=
  fun _ => ⟨rfl, rfl, rfl, rfl⟩

theorem gatewayAuth_quiet : Frame Quiet (gatewayAuth env) :=
  quiet_bind (tryCall_quiet _) fun _ => frame_reads quiet_refl _

theorem checkAuth_quiet : Frame Quiet (checkAuth env) := by
  refine quiet_bind gatewayAuth_quiet fun gateway => ?_
  refine frame_ite (frame_pure quiet_refl _) ?_
  refine quiet_bind (frame_reads quiet_refl _) fun auth => ?_
  exact quiet_bind (call_quiet _) fun reloaded => frame_lift quiet_refl _

theorem lookupSession_quiet (id : SessionId) : Frame Quiet (lookupSession env id) :=
  quiet_bind (tryCall_quiet _) fun _ => frame_reads quiet_refl _

theorem threadPath_quiet : Frame Quiet (threadPath env) := by
  refine quiet_bind (frame_mapError (tryCall_quiet _)) fun path => ?_
  cases path with
  | some path => exact frame_pure quiet_refl _
  | none => exact frame_fail quiet_refl _

theorem liveSessionRolloutItems_quiet : Frame Quiet (liveSessionRolloutItems env) := by
  refine quiet_bind (call_quiet _) fun path => ?_
  split
  · refine quiet_bind (call_quiet _) fun history => ?_
    split
    · exact frame_pure quiet_refl _
    · exact frame_pure quiet_refl _
  · exact frame_pure quiet_refl _
  · exact frame_pure quiet_refl _

theorem resumeLive_quiet : Frame Quiet (resumeLive env) :=
  quiet_bind (tryCall_quiet _) fun _ => quiet_bind (tryCall_quiet _) fun _ => frame_pure quiet_refl _

theorem loadLive_quiet : Frame Quiet (loadLive env) := by
  refine quiet_bind liveSessionRolloutItems_quiet fun rolloutItems => ?_
  refine quiet_bind (tryCall_quiet _) fun _ => ?_
  refine quiet_bind (frame_onlyIf quiet_refl (tryCall_quiet _)) fun _ => ?_
  exact quiet_bind (tryCall_quiet _) fun _ => frame_pure quiet_refl _

theorem flushSource_quiet (source : SessionId) : Frame Quiet (flushSource env source) := by
  refine quiet_bind (frame_lift quiet_refl _) fun threadId => ?_
  refine quiet_bind (frame_reads quiet_refl _) fun running => ?_
  exact frame_onlyIf quiet_refl (frame_mapError (tryCall_quiet _))

/-- **Requests.** What holds of every quiet handler, of every handler after a quiet
one, and of bringing a thread up, holds of every request. -/
theorem openSession_induction {params : OpeningParams}
    {P : Handler SessionHost Error OpenedSession → Prop}
    (quiet : ∀ x, Frame Quiet x → P x)
    (after : ∀ (α : Type) (x : Handler SessionHost Error α) f, Frame Quiet x → (∀ a, P (f a)) →
      P (x >>= f))
    (opens : ∀ request additionalDirectories replays,
      P (Prod.snd <$> openThread env request params additionalDirectories replays))
    (request : Opening) : P (openSession env params request) := by
  cases request with
  | newSession =>
    refine after _ _ _ checkAuth_quiet fun _ => ?_
    exact after _ _ _ (frame_lift quiet_refl _) fun directories => opens _ directories _
  | loadSession id =>
    refine after _ _ _ checkAuth_quiet fun _ => ?_
    refine after _ _ _ (frame_lift quiet_refl _) fun directories => ?_
    refine after _ _ _ (lookupSession_quiet id) fun existing => ?_
    split
    · exact quiet _ loadLive_quiet
    · refine after _ _ _ threadPath_quiet fun _ => ?_
      refine after _ _ _ (frame_mapError (tryCall_quiet _)) fun _ => ?_
      exact opens _ directories _
  | resumeSession id =>
    refine after _ _ _ checkAuth_quiet fun _ => ?_
    refine after _ _ _ (frame_lift quiet_refl _) fun directories => ?_
    refine after _ _ _ (lookupSession_quiet id) fun existing => ?_
    split
    · exact quiet _ resumeLive_quiet
    · refine after _ _ _ threadPath_quiet fun _ => ?_
      exact opens _ directories _
  | forkSession source =>
    refine after _ _ _ checkAuth_quiet fun _ => ?_
    refine after _ _ _ (flushSource_quiet source) fun _ => ?_
    refine after _ _ _ threadPath_quiet fun _ => ?_
    exact after _ _ _ (frame_lift quiet_refl _) fun directories => opens _ directories _

end Frames

end SessionHost

end CodexAcp.Agent
