import CodexAcp.Agent.LeftThread

/-!
# Closing and deleting a session

Both handlers shut the session's thread down, tell the `ThreadManager` to remove it
and take the session out of the map, and every step on the way may fail. Closing
takes the session out of the map last, deleting first.

> `tracked_of_requests`: the `ThreadManager` knows a session's thread under the
> session's id only, after whatever sessions were opened, closed and deleted, as long
> as Codex resumes a thread under its own id.
> `closing_orphans_iff`: a handler that fails leaves its thread where it can be
> reached, unless the thread of a session that is deleted cannot be shut down.
-/

namespace CodexAcp.Agent

open CodexAcp.Lib CodexAcp.Protocol Handler

/-! ## Handlers -/

/-- What removing a file comes to. -/
inductive FileRemoval where
  | removed
  | notFound
  | failed (text : String)

/-- What closing and deleting ask besides. -/
structure ClosingEnv extends HostEnv where
  /-- `tokio::fs::remove_file`. -/
  removeFile : Nat → FileRemoval
  /-- `StateRuntime::delete_thread`: so many rows were deleted. -/
  deleteThread : Nat → Except String Nat

/-- The agent, and the threads that were shut down. -/
structure ClosingHost where
  host : SessionHost
  ended : List ThreadRef := []

namespace ClosingHost

def onHost {α : Type} (x : Handler SessionHost Error α) : Handler ClosingHost Error α :=
  Handler.zoom (·.host) (fun host c => { c with host }) x

section Handlers

variable (env : ClosingEnv)

/-- `Thread::shutdown`; a thread that refuses goes on. -/
def shutdown (thread : HostedThread) : Handler ClosingHost Error Unit := do
  onHost (SessionHost.shutdown env.toHostEnv thread)
  Handler.update fun c => { c with ended := c.ended ++ [thread.thread] }

/-- `ThreadManager::remove_thread`. -/
def removeThread (threadId : ThreadId) : Handler ClosingHost Error Unit :=
  onHost (Handler.update fun s =>
    { s with
      registry := s.registry.erase threadId
      registry_lt := fun id thread h =>
        s.registry_lt id thread (Dict.lookup_erase_eq_some.mp h).2 })

/-- Take the session out of the map, and say which thread it had. -/
def removeSession (id : SessionId) : Handler ClosingHost Error (Option HostedThread) := do
  onHost (SessionHost.takeLock env.sessionsPoisoned "sessions")
  let thread ← Handler.reads (·.host.sessions.lookup id)
  Handler.update fun c => { c with host := { c.host with sessions := c.host.sessions.erase id } }
  pure thread

def getThread (id : SessionId) : Handler ClosingHost Error HostedThread := do
  match ← onHost (SessionHost.lookupSession env.toHostEnv id) with
  | some thread => pure thread
  | none => Handler.fail .resourceNotFound

def threadIdOf (id : SessionId) : Handler ClosingHost Error ThreadId :=
  Handler.lift ((env.store.fromString id).mapError SessionHost.internalError)

def closeSession (id : SessionId) : Handler ClosingHost Error Unit := do
  let thread ← getThread env id
  shutdown env thread
  let threadId ← threadIdOf env id
  removeThread threadId
  let _ ← removeSession env id

/-- Remove a rollout; tell whether it was there. -/
def removeRollout : Option String → Handler ClosingHost Error Bool
  | none => pure false
  | some _ => do
    match ← onHost (SessionHost.call env.removeFile) with
    | .removed => pure true
    | .notFound => pure false
    | .failed text =>
      Handler.fail (SessionHost.internalError ("failed to delete rollout file: " ++ text))

/-- Delete a thread from the state database, if there is one; tell whether it was there. -/
def deleteRows : Handler ClosingHost Error Bool :=
  if env.store.hasStateDb then do
    let rows ← onHost (mapError SessionHost.internalError (SessionHost.tryCall env.deleteThread))
    pure (decide (0 < rows))
  else pure false

/-- Delete what is left of a session whose thread is gone. -/
def deleteRemains (deleted : Bool) : Handler ClosingHost Error Unit := do
  let path ← onHost (mapError SessionHost.internalError (SessionHost.tryCall env.findThreadPath))
  let removed ← removeRollout env path
  let rows ← deleteRows env
  if deleted || removed || rows then pure () else Handler.fail .resourceNotFound

def deleteSession (id : SessionId) : Handler ClosingHost Error Unit := do
  let threadId ← threadIdOf env id
  match ← removeSession env id with
  | some thread => do
    shutdown env thread
    removeThread threadId
    deleteRemains env true
  | none => deleteRemains env false

end Handlers

end ClosingHost

/-! ## Sessions and the `ThreadManager` -/

/-- The `ThreadManager` knows a session's thread under the session's id only. -/
structure Tracked (env : HostEnv) (s : SessionHost) : Prop where
  ids : ∀ id thread threadId, s.sessions.lookup id = some thread →
    env.store.fromString id = .ok threadId → threadId = thread.threadId
  refs : ∀ id thread threadId, s.sessions.lookup id = some thread →
    s.registry.lookup threadId = some thread.thread → threadId = thread.threadId
  old : ∀ id thread, s.sessions.lookup id = some thread → thread.thread < s.threads

/-- Codex resumes a thread under the id it was recorded with. -/
def KeepsThreadIds (env : HostEnv) : Prop :=
  ∀ request n threadId, env.bringUp request n = .ok threadId →
    ∀ threadId', env.store.fromString (request.sessionId env.store threadId) = .ok threadId' →
      threadId' = threadId

namespace SessionHost

/-- No session yet. -/
theorem fresh_tracked (env : HostEnv) : Tracked env .fresh where
  ids _ _ _ h := by cases h
  refs _ _ _ h := by cases h
  old _ _ h := by cases h

section Tracking

variable {env : HostEnv} {s t : SessionHost}

theorem SameThreads.tracked (h : SameThreads s t) (htracked : Tracked env s) : Tracked env t where
  ids id thread threadId := by
    rw [h.sessions]
    exact htracked.ids id thread threadId
  refs id thread threadId := by
    rw [h.sessions, h.registry]
    exact htracked.refs id thread threadId
  old id thread := by
    rw [h.sessions, h.threads]
    exact htracked.old id thread

/-- A thread that was brought up and has no session yet. -/
structure Ready (env : HostEnv) (threadId : ThreadId) (ref : ThreadRef) (s : SessionHost) :
    Prop where
  tracked : Tracked env s
  only : ∀ id, s.registry.lookup id = some ref → id = threadId
  old : ref < s.threads

theorem SameThreads.ready (h : SameThreads s t) {threadId : ThreadId} {ref : ThreadRef}
    (hready : Ready env threadId ref s) : Ready env threadId ref t where
  tracked := h.tracked hready.tracked
  only id := by
    rw [h.registry]
    exact hready.only id
  old := by
    rw [h.threads]
    exact hready.old

/-- A thread that is brought up has a number of its own. -/
theorem bringUp_ready {request : Opening} {result : ThreadId × ThreadRef}
    (htracked : Tracked env s) (h : bringUp env request s = (.ok result, t)) :
    Ready env result.1 result.2 t ∧ ∃ n, env.bringUp request n = .ok result.1 := by
  obtain ⟨threadId, s₁, hcall, hregister⟩ := bind_ok_inv h
  have hbrought : env.bringUp request s.calls = .ok threadId ∧
      s₁ = { s with calls := s.calls + 1 } := by
    unfold mapError tryCall at hcall
    cases houtcome : env.bringUp request s.calls with
    | error e => rw [houtcome] at hcall; cases hcall
    | ok id => rw [houtcome] at hcall; cases hcall; exact ⟨rfl, rfl⟩
  obtain ⟨hbrought, rfl⟩ := hbrought
  cases hregister
  refine ⟨⟨⟨htracked.ids, ?_, ?_⟩, ?_, Nat.lt_succ_self _⟩, s.calls, hbrought⟩
  · intro id thread id' hthread hid
    -- the new thread is no session's
    rcases Dict.lookup_insert_eq_some.mp hid with ⟨-, href⟩ | ⟨-, hid⟩
    · have hold := htracked.old id thread hthread
      rw [← href] at hold
      exact absurd hold (Nat.lt_irrefl _)
    · exact htracked.refs id thread id' hthread hid
  · exact fun id thread hthread => Nat.lt_succ_of_lt (htracked.old id thread hthread)
  · intro id hid
    rcases Dict.lookup_insert_eq_some.mp hid with ⟨hid, -⟩ | ⟨-, hid⟩
    · exact hid
    · exact absurd (s.registry_lt id _ hid) (Nat.lt_irrefl _)

theorem ready_bind {α β : Type} {x : Handler SessionHost Error α}
    {f : α → Handler SessionHost Error β} {threadId : ThreadId} {ref : ThreadRef}
    (hx : Frame SameThreads x)
    (hf : ∀ a s, Ready env threadId ref s → Tracked env (f a s).2)
    (hready : Ready env threadId ref s) : Tracked env ((x >>= f) s).2 := by
  have hs := hx s
  rw [bind_run]
  match hrun : x s with
  | (.ok a, s') => rw [hrun] at hs; exact hf a s' (hs.ready hready)
  | (.error e, s') => rw [hrun] at hs; exact hs.tracked hready.tracked

theorem insertSessionThread_tracked (request : Opening) (thread : HostedThread)
    {cleanup : Handler SessionHost Error Unit} (hcleanup : Frame SameThreads cleanup)
    (hids : ∀ threadId', env.store.fromString (request.sessionId env.store thread.threadId) =
      .ok threadId' → threadId' = thread.threadId)
    (hready : Ready env thread.threadId thread.thread s) :
    Tracked env (onError (insertSessionThread env
      (request.sessionId env.store thread.threadId) thread) cleanup s).2 := by
  unfold onError
  match hrun : insertSessionThread env (request.sessionId env.store thread.threadId) thread s with
  | (.error e, s') =>
    have hs := insertSessionThread_failFrame _ _ s e s' hrun
    have htracked := (hcleanup s').tracked (hs.tracked hready.tracked)
    match hclean : cleanup s' with
    | (.ok _, t) => rw [hclean] at htracked; simp only [hclean]; exact htracked
    | (.error _, t) => rw [hclean] at htracked; simp only [hclean]; exact htracked
  | (.ok _, s') =>
    obtain ⟨_, s₁, hlock, hupdate⟩ := bind_ok_inv hrun
    have hs : SameThreads s s₁ := by
      have hframe : Frame SameThreads (takeLock env.sessionsPoisoned "sessions") :=
        fun _ => ⟨rfl, rfl, rfl⟩
      have hs := hframe s
      rw [hlock] at hs
      exact hs
    have hready₁ := hs.ready hready
    cases hupdate
    constructor
    · intro id thread' threadId hthread hid
      rcases Dict.lookup_insert_eq_some.mp hthread with ⟨rfl, rfl⟩ | ⟨-, hthread⟩
      · exact hids threadId hid
      · exact hready₁.tracked.ids id thread' threadId hthread hid
    · intro id thread' threadId hthread hid
      rcases Dict.lookup_insert_eq_some.mp hthread with ⟨-, rfl⟩ | ⟨-, hthread⟩
      · exact hready₁.only threadId hid
      · exact hready₁.tracked.refs id thread' threadId hthread hid
    · intro id thread' hthread
      rcases Dict.lookup_insert_eq_some.mp hthread with ⟨-, rfl⟩ | ⟨-, hthread⟩
      · exact hready₁.old
      · exact hready₁.tracked.old id thread' hthread

theorem openThread_tracked (hids : KeepsThreadIds env) (request : Opening) (params : OpeningParams)
    (additionalDirectories : List String) (replays : Bool) :
    Frame (fun s t => Tracked env s → Tracked env t)
      (openThread env request params additionalDirectories replays) := by
  refine frame_bind (R := fun s t => Tracked env s → Tracked env t)
    (fun h h' hs => h' (h hs)) ?_ fun build => ?_
  · exact fun s => (buildConfig_sameThreads env params additionalDirectories s).tracked
  intro s htracked
  rw [bind_run]
  match hrun : onError (bringUp env request) (shutdownMcpBridges build.mcpBridges) s with
  | (.error e, s') =>
    exact (failFrame_onError (R := SameThreads) SameThreads.trans (bringUp_failFrame env request)
      (onBridges_sameThreads _) s e s' hrun).tracked htracked
  | (.ok (threadId, ref), s') =>
    obtain ⟨hready, n, hbrought⟩ := bringUp_ready htracked (onError_ok_inv hrun)
    dsimp only
    refine ready_bind ?_ (fun _ s hready => ?_) hready
    · exact frame_onlyIf sameThreads_refl (frame_onError (R := SameThreads) SameThreads.trans
        (frame_sameThreads (tryCall_quiet _)) (shutdown_sameThreads _))
    refine ready_bind ?_ (fun load s hready => ?_) hready
    · exact frame_onError (R := SameThreads) SameThreads.trans
        (frame_sameThreads (tryCall_quiet _)) (shutdown_sameThreads _)
    let thread : HostedThread := { thread := ref, threadId, mcpBridges := build.mcpBridges }
    have hinserted := insertSessionThread_tracked request thread (@shutdown_sameThreads env thread)
      (hids request n threadId hbrought) hready
    exact (congrArg (Tracked env) (map_state _ _ s)).mpr hinserted

/-- **Opening** keeps track of the threads. -/
theorem openSession_tracked (hids : KeepsThreadIds env) (params : OpeningParams)
    (request : Opening) :
    Frame (fun s t => Tracked env s → Tracked env t) (openSession env params request) := by
  refine openSession_induction ?_ ?_ ?_ request
  · exact fun x hquiet s => (frame_sameThreads hquiet s).tracked
  · intro α x f hquiet hf
    exact frame_bind (R := fun s t => Tracked env s → Tracked env t) (fun h h' hs => h' (h hs))
      (fun s => (frame_sameThreads hquiet s).tracked) hf
  · intro request additionalDirectories replays s
    rw [map_state]
    exact openThread_tracked hids request params additionalDirectories replays s

end Tracking

end SessionHost

/-! ## What a failed handler leaves -/

/-- The requests that end a session. -/
inductive Closing where
  | close
  | delete
  deriving DecidableEq

def Closing.handle (env : ClosingEnv) (id : SessionId) : Closing → Handler ClosingHost Error Unit
  | close => ClosingHost.closeSession env id
  | delete => ClosingHost.deleteSession env id

namespace ClosingHost

open SessionHost (SameThreads)

/-- The thread was shut down, and the `ThreadManager` does not know it. -/
def Gone (thread : HostedThread) (c : ClosingHost) : Prop :=
  thread.thread ∈ c.ended ∧ ∀ threadId, c.host.registry.lookup threadId ≠ some thread.thread

/-- The session still has the thread, or the thread is gone. -/
def NotOrphaned (id : SessionId) (thread : HostedThread) (c : ClosingHost) : Prop :=
  c.host.sessions.lookup id = some thread ∨ Gone thread c

def SameSessions (c d : ClosingHost) : Prop := d.host.sessions = c.host.sessions

theorem SameSessions.trans {c d e : ClosingHost} (h : SameSessions c d) (h' : SameSessions d e) :
    SameSessions c e := Eq.trans h' h

/-- Sessions, `ThreadManager` and shut down threads are left alone. -/
structure Untouched (c d : ClosingHost) : Prop where
  host : SameThreads c.host d.host
  ended : d.ended = c.ended

theorem untouched_refl (c : ClosingHost) : Untouched c c := ⟨SessionHost.sameThreads_refl _, rfl⟩

theorem Untouched.trans {c d e : ClosingHost} (h : Untouched c d) (h' : Untouched d e) :
    Untouched c e :=
  ⟨h.host.trans h'.host, h'.ended.trans h.ended⟩

theorem Untouched.gone {c d : ClosingHost} (h : Untouched c d) {thread : HostedThread} :
    Gone thread d ↔ Gone thread c := by
  unfold Gone
  rw [h.ended, h.host.registry]

section Handlers

variable {env : ClosingEnv} {α β : Type}

theorem onHost_untouched {x : Handler SessionHost Error α} (h : Frame SameThreads x) :
    Frame Untouched (onHost x) := fun c => ⟨h c.host, rfl⟩

theorem quiet_untouched {x : Handler SessionHost Error α} (h : Frame SessionHost.Quiet x) :
    Frame Untouched (onHost x) := onHost_untouched (SessionHost.frame_sameThreads h)

theorem untouched_bind {x : Handler ClosingHost Error α} {f : α → Handler ClosingHost Error β}
    (hx : Frame Untouched x) (hf : ∀ a, Frame Untouched (f a)) : Frame Untouched (x >>= f) :=
  frame_bind (R := Untouched) Untouched.trans hx hf

theorem sameSessions_of_untouched {x : Handler ClosingHost Error α} (h : Frame Untouched x) :
    Frame SameSessions x := fun c => (h c).host.sessions

theorem getThread_untouched (id : SessionId) : Frame Untouched (getThread env id) := by
  refine untouched_bind (quiet_untouched (SessionHost.lookupSession_quiet id)) fun thread => ?_
  cases thread with
  | some thread => exact frame_pure untouched_refl _
  | none => exact frame_fail untouched_refl _

theorem shutdown_sameSessions (thread : HostedThread) :
    Frame SameSessions (shutdown env thread) :=
  frame_bind (R := SameSessions) SameSessions.trans
    (sameSessions_of_untouched (onHost_untouched (SessionHost.shutdown_sameThreads thread)))
    fun _ _ => rfl

theorem deleteRemains_untouched (deleted : Bool) : Frame Untouched (deleteRemains env deleted) := by
  refine untouched_bind (quiet_untouched (frame_mapError (SessionHost.tryCall_quiet _)))
    fun path => ?_
  refine untouched_bind ?_ fun removed => untouched_bind ?_ fun rows => ?_
  · cases path with
    | none => exact frame_pure untouched_refl _
    | some path =>
      refine untouched_bind (quiet_untouched (SessionHost.call_quiet _)) fun removal => ?_
      cases removal with
      | removed => exact frame_pure untouched_refl _
      | notFound => exact frame_pure untouched_refl _
      | failed text => exact frame_fail untouched_refl _
  · refine frame_ite ?_ (frame_pure untouched_refl _)
    exact untouched_bind (quiet_untouched (frame_mapError (SessionHost.tryCall_quiet _)))
      fun _ => frame_pure untouched_refl _
  · exact frame_ite (frame_pure untouched_refl _) (frame_fail untouched_refl _)

theorem removeSession_failFrame (id : SessionId) :
    FailFrame Untouched (removeSession env id) := by
  refine failFrame_then ?_ fun _ c => ⟨_, rfl⟩
  exact failFrame_of_frame (quiet_untouched (SessionHost.tryCall_quiet _))

/-- **Closing** takes the session out of the map last. -/
theorem closeSession_error (id : SessionId) :
    FailFrame SameSessions (closeSession env id) := by
  refine failFrame_bind (R := SameSessions) SameSessions.trans
    (sameSessions_of_untouched (getThread_untouched id)) fun thread => ?_
  refine failFrame_bind (R := SameSessions) SameSessions.trans (shutdown_sameSessions thread)
    fun _ => ?_
  refine failFrame_bind (R := SameSessions) SameSessions.trans (fun _ => rfl)
    fun threadId => ?_
  refine failFrame_bind (R := SameSessions) SameSessions.trans (fun _ => rfl) fun _ => ?_
  refine failFrame_then (fun c e d hrun => ?_) fun _ c => ⟨(), rfl⟩
  exact (removeSession_failFrame id c e d hrun).host.sessions

/-- A shutdown that succeeds is recorded. -/
theorem shutdown_ok {thread : HostedThread} {c d : ClosingHost}
    (h : shutdown env thread c = (.ok (), d)) :
    SameThreads c.host d.host ∧ d.ended = c.ended ++ [thread.thread] := by
  obtain ⟨_, c₁, hshutdown, hrecord⟩ := bind_ok_inv h
  have hsame := onHost_untouched (@SessionHost.shutdown_sameThreads env.toHostEnv thread) c
  rw [hshutdown] at hsame
  cases hrecord
  exact ⟨hsame.host, congrArg (· ++ [thread.thread]) hsame.ended⟩

theorem shutdown_error {thread : HostedThread} {c d : ClosingHost} {e : Error}
    (h : shutdown env thread c = (.error e, d)) : Untouched c d := by
  have hsame := onHost_untouched (@SessionHost.shutdown_sameThreads env.toHostEnv thread) c
  rcases bind_error_inv h with hshutdown | ⟨_, c₁, hshutdown, hrecord⟩
  · rwa [hshutdown] at hsame
  · cases hrecord

/-- A thread that is shut down and removed is gone. -/
theorem gone_of_removed {thread : HostedThread} {threadId : ThreadId} {c d : ClosingHost}
    (hrefs : ∀ id, c.host.registry.lookup id = some thread.thread → id = threadId)
    (hended : thread.thread ∈ c.ended) (h : removeThread threadId c = (.ok (), d)) :
    Gone thread d := by
  cases h
  refine ⟨hended, fun id hid => ?_⟩
  obtain ⟨hne, hid⟩ := Dict.lookup_erase_eq_some.mp hid
  exact hne (hrefs id hid)

/-- One call more. -/
def called (c : ClosingHost) : ClosingHost :=
  { c with host := { c.host with calls := c.host.calls + 1 } }

def withoutSession (id : SessionId) (c : ClosingHost) : ClosingHost :=
  { c with host := { c.host with sessions := c.host.sessions.erase id } }

theorem takeLock_run (c : ClosingHost) :
    onHost (SessionHost.takeLock env.sessionsPoisoned "sessions") c =
      (if env.sessionsPoisoned c.host.calls then
        .error (SessionHost.internalError ("sessions" ++ " state is poisoned")) else .ok (),
       c.called) := rfl

/-- The session is taken out of the map, if the lock can be taken. -/
theorem removeSession_run (id : SessionId) (c : ClosingHost) :
    removeSession env id c =
      if env.sessionsPoisoned c.host.calls then
        (.error (SessionHost.internalError ("sessions" ++ " state is poisoned")), c.called)
      else (.ok (c.host.sessions.lookup id), c.called.withoutSession id) := by
  unfold removeSession
  rw [bind_run, takeLock_run]
  cases env.sessionsPoisoned c.host.calls <;> rfl

theorem threadIdOf_run (id : SessionId) (c : ClosingHost) :
    threadIdOf env id c = ((env.store.fromString id).mapError SessionHost.internalError, c) := rfl

/-- What is left to do once a session is out of the map. -/
theorem deleteSession_removed {id : SessionId} {thread : HostedThread} {threadId : ThreadId}
    {c : ClosingHost} (hthread : c.host.sessions.lookup id = some thread)
    (hid : env.store.fromString id = .ok threadId)
    (hlock : env.sessionsPoisoned c.host.calls = false) :
    deleteSession env id c =
      (do shutdown env thread; removeThread threadId; deleteRemains env true :
        Handler ClosingHost Error Unit) (c.called.withoutSession id) := by
  unfold deleteSession
  rw [bind_run, threadIdOf_run, hid]
  show (removeSession env id >>= _) c = _
  rw [bind_run, removeSession_run, hlock, hthread]
  rfl

/-- A session whose id is none, or whose lock cannot be taken, stays in the map. -/
theorem deleteSession_refused {id : SessionId} {c : ClosingHost}
    (h : (env.store.fromString id).toBool = false ∨ env.sessionsPoisoned c.host.calls = true) :
    SameSessions c (deleteSession env id c).2 := by
  unfold deleteSession
  rw [bind_run, threadIdOf_run]
  cases hid : env.store.fromString id with
  | error text => rfl
  | ok threadId =>
    rcases h with h | h
    · rw [hid] at h
      cases h
    · show SameSessions c ((removeSession env id >>= _) c).2
      rw [bind_run, removeSession_run, h]
      rfl

/-- Whether the thread shuts down is what its actor answers. -/
theorem shutdown_outcome (thread : HostedThread) (c : ClosingHost) :
    (shutdown env thread c).1 = env.shutdown c.host.calls := by
  unfold shutdown onHost
  rw [bind_run, zoom_run]
  have hresult : (SessionHost.shutdown env.toHostEnv thread c.host).1 =
      env.shutdown c.host.calls := rfl
  cases houtcome : env.shutdown c.host.calls with
  | ok _ => rw [houtcome] at hresult; rw [hresult]; rfl
  | error e => rw [houtcome] at hresult; rw [hresult]

/-- Out of the map, a thread that refuses to shut down is orphaned, unless it is gone. -/
theorem notOrphaned_of_refused {id : SessionId} {thread : HostedThread} {c d : ClosingHost}
    {e : Error} (hsession : c.host.sessions.lookup id = none)
    (h : shutdown env thread c = (.error e, d)) : NotOrphaned id thread d ↔ Gone thread c := by
  have huntouched := shutdown_error h
  refine ⟨?_, fun hgone => .inr (huntouched.gone.mpr hgone)⟩
  rintro (hleft | hgone)
  · rw [huntouched.host.sessions, hsession] at hleft
    cases hleft
  · exact huntouched.gone.mp hgone

/-- Once a thread is shut down, it is removed, whatever becomes of the rest. -/
theorem gone_of_shutdown {thread : HostedThread} {threadId : ThreadId} {c c' d : ClosingHost}
    {e : Error} (hrefs : ∀ id, c.host.registry.lookup id = some thread.thread → id = threadId)
    (hshutdown : shutdown env thread c = (.ok (), c'))
    (hrest : (do removeThread threadId; deleteRemains env true : Handler ClosingHost Error Unit) c' =
      (.error e, d)) : Gone thread d := by
  obtain ⟨hsame, hended⟩ := shutdown_ok hshutdown
  rcases bind_error_inv hrest with hremove | ⟨_, c₂, hremove, hremains⟩
  · cases hremove
  · have hgone : Gone thread c₂ := by
      refine gone_of_removed (fun id hid => hrefs id ?_) (by rw [hended]; simp) hremove
      rwa [← hsame.registry]
    have huntouched := @deleteRemains_untouched env true c₂
    rw [hremains] at huntouched
    exact huntouched.gone.mpr hgone

/-- A session that is out of the map leaves no orphan exactly if its thread shuts down, or is
gone already. -/
theorem endThread_orphans_iff {id : SessionId} {thread : HostedThread} {threadId : ThreadId}
    {c : ClosingHost} (hsession : c.host.sessions.lookup id = none)
    (hrefs : ∀ id, c.host.registry.lookup id = some thread.thread → id = threadId) :
    (∀ e d, (do shutdown env thread; removeThread threadId; deleteRemains env true :
        Handler ClosingHost Error Unit) c = (.error e, d) → NotOrphaned id thread d) ↔
      (env.shutdown c.host.calls).toBool = true ∨ Gone thread c := by
  have hresult := @shutdown_outcome env thread c
  match hshutdown : shutdown env thread c with
  | (.ok (), c') =>
    rw [hshutdown] at hresult
    refine iff_of_true (fun e d hfail => .inr ?_) (.inl (by rw [← hresult]; rfl))
    rw [bind_run, hshutdown] at hfail
    exact gone_of_shutdown hrefs hshutdown hfail
  | (.error e, c') =>
    rw [hshutdown] at hresult
    rw [← hresult, bind_run, hshutdown]
    refine ⟨fun h => .inr ((notOrphaned_of_refused hsession hshutdown).mp (h e c' rfl)), ?_⟩
    rintro (hok | hgone) _ _ ⟨⟩
    · cases hok
    · exact (notOrphaned_of_refused hsession hshutdown).mpr hgone

end Handlers

/-! ### Fewer sessions -/

/-- No session and no thread that was not there before. -/
structure Fewer (c d : ClosingHost) : Prop where
  sessions : ∀ id thread, d.host.sessions.lookup id = some thread →
    c.host.sessions.lookup id = some thread
  registry : ∀ id ref, d.host.registry.lookup id = some ref → c.host.registry.lookup id = some ref
  threads : d.host.threads = c.host.threads

theorem Fewer.trans {c d e : ClosingHost} (h : Fewer c d) (h' : Fewer d e) : Fewer c e where
  sessions id thread hthread := h.sessions id thread (h'.sessions id thread hthread)
  registry id ref hid := h.registry id ref (h'.registry id ref hid)
  threads := h'.threads.trans h.threads

theorem Untouched.fewer {c d : ClosingHost} (h : Untouched c d) : Fewer c d where
  sessions id thread hthread := by rwa [← h.host.sessions]
  registry id ref hid := by rwa [← h.host.registry]
  threads := h.host.threads

theorem Fewer.tracked {env : HostEnv} {c d : ClosingHost} (h : Fewer c d)
    (htracked : Tracked env c.host) : Tracked env d.host where
  ids id thread threadId hthread := htracked.ids id thread threadId (h.sessions id thread hthread)
  refs id thread threadId hthread hid :=
    htracked.refs id thread threadId (h.sessions id thread hthread) (h.registry _ _ hid)
  old id thread hthread := by
    rw [h.threads]
    exact htracked.old id thread (h.sessions id thread hthread)

section Fewer

variable {env : ClosingEnv} {α β : Type}

theorem fewer_of_untouched {x : Handler ClosingHost Error α} (h : Frame Untouched x) :
    Frame Fewer x := fun c => (h c).fewer

theorem fewer_bind {x : Handler ClosingHost Error α} {f : α → Handler ClosingHost Error β}
    (hx : Frame Fewer x) (hf : ∀ a, Frame Fewer (f a)) : Frame Fewer (x >>= f) :=
  frame_bind (R := Fewer) Fewer.trans hx hf

theorem shutdown_fewer (thread : HostedThread) : Frame Fewer (shutdown env thread) :=
  fewer_bind (fewer_of_untouched (onHost_untouched (SessionHost.shutdown_sameThreads thread)))
    fun _ _ => ⟨fun _ _ h => h, fun _ _ h => h, rfl⟩

theorem removeThread_fewer (threadId : ThreadId) : Frame Fewer (removeThread threadId) :=
  fun _ => ⟨fun _ _ h => h, fun _ _ h => (Dict.lookup_erase_eq_some.mp h).2, rfl⟩

theorem removeSession_fewer (id : SessionId) : Frame Fewer (removeSession env id) := by
  intro c
  rw [removeSession_run]
  split
  · exact ⟨fun _ _ h => h, fun _ _ h => h, rfl⟩
  · exact ⟨fun _ _ h => (Dict.lookup_erase_eq_some.mp h).2, fun _ _ h => h, rfl⟩

theorem threadIdOf_fewer (id : SessionId) : Frame Fewer (threadIdOf env id) :=
  fun c => (untouched_refl c).fewer

theorem closeSession_fewer (id : SessionId) : Frame Fewer (closeSession env id) :=
  fewer_bind (fewer_of_untouched (getThread_untouched id)) fun thread =>
    fewer_bind (shutdown_fewer thread) fun _ =>
      fewer_bind (threadIdOf_fewer id) fun threadId =>
        fewer_bind (removeThread_fewer threadId) fun _ =>
          fewer_bind (removeSession_fewer id) fun _ c => (untouched_refl c).fewer

theorem deleteSession_fewer (id : SessionId) : Frame Fewer (deleteSession env id) := by
  refine fewer_bind (threadIdOf_fewer id) fun threadId =>
    fewer_bind (removeSession_fewer id) fun thread => ?_
  cases thread with
  | none => exact fewer_of_untouched (deleteRemains_untouched false)
  | some thread =>
    exact fewer_bind (shutdown_fewer thread) fun _ =>
      fewer_bind (removeThread_fewer threadId) fun _ =>
        fewer_of_untouched (deleteRemains_untouched true)

end Fewer

end ClosingHost

open ClosingHost

/-- **Closing** and deleting keep track of the threads, however far they come. -/
theorem closing_tracked {env : ClosingEnv} (request : Closing) (id : SessionId) {c : ClosingHost}
    (h : Tracked env.toHostEnv c.host) :
    Tracked env.toHostEnv (request.handle env id c).2.host := by
  cases request with
  | close => exact (closeSession_fewer id c).tracked h
  | delete => exact (deleteSession_fewer id c).tracked h

/-- The requests that open and end sessions. -/
inductive SessionRequest where
  | opening (params : OpeningParams) (request : Opening)
  | closing (id : SessionId) (request : Closing)

/-- The agent after a request, whatever is answered. -/
def SessionRequest.after (env : ClosingEnv) (c : ClosingHost) : SessionRequest → ClosingHost
  | opening params request =>
    { c with host := (SessionHost.openSession env.toHostEnv params request c.host).2 }
  | closing id request => (request.handle env id c).2

/-- **Whatever is requested**, the threads are kept track of. -/
theorem tracked_of_requests {env : ClosingEnv} (hids : KeepsThreadIds env.toHostEnv)
    (requests : List SessionRequest) :
    Tracked env.toHostEnv
      (requests.foldl (SessionRequest.after env) { host := .fresh }).host := by
  suffices hkept : ∀ c : ClosingHost, Tracked env.toHostEnv c.host →
      Tracked env.toHostEnv (requests.foldl (SessionRequest.after env) c).host from
    hkept _ (SessionHost.fresh_tracked _)
  induction requests with
  | nil => exact fun _ h => h
  | cons request requests ih =>
    refine fun c h => ih _ ?_
    cases request with
    | opening params request => exact SessionHost.openSession_tracked hids params request _ h
    | closing id request => exact closing_tracked request id h

/-- **Orphans.** A handler that fails leaves the session's thread in the map, or shut down
and removed, exactly unless the session is to be deleted and its thread, which is not gone,
cannot be shut down. -/
theorem closing_orphans_iff {env : ClosingEnv} {c : ClosingHost}
    (htracked : Tracked env.toHostEnv c.host) (request : Closing) {id : SessionId}
    {thread : HostedThread} (hthread : c.host.sessions.lookup id = some thread) :
    (∀ e d, request.handle env id c = (.error e, d) → NotOrphaned id thread d) ↔
      (request = .delete → (env.store.fromString id).toBool = true →
        env.sessionsPoisoned c.host.calls = false →
        (env.shutdown (c.host.calls + 1)).toBool = true ∨ Gone thread c) := by
  cases request with
  | close =>
    refine ⟨fun _ => nofun, fun _ e d hrun => .inl ?_⟩
    rw [closeSession_error id c e d hrun]
    exact hthread
  | delete =>
    -- a request that is refused leaves the session in the map
    have hrefused : (env.store.fromString id).toBool = false ∨
        env.sessionsPoisoned c.host.calls = true →
        ∀ e d, deleteSession env id c = (.error e, d) → NotOrphaned id thread d := by
      intro h e d hrun
      have hsame := deleteSession_refused h
      rw [hrun] at hsame
      exact .inl (hsame ▸ hthread)
    cases hid : env.store.fromString id with
    | error text => exact ⟨fun _ _ => nofun, fun _ => hrefused (.inl (by rw [hid]; rfl))⟩
    | ok threadId =>
      cases hlock : env.sessionsPoisoned c.host.calls with
      | true => exact ⟨fun _ _ _ => nofun, fun _ => hrefused (.inr hlock)⟩
      | false =>
        -- the session's id is its thread's
        have hrefs : ∀ id', c.host.registry.lookup id' = some thread.thread → id' = threadId := by
          intro id' hid'
          rw [htracked.ids id thread threadId hthread hid]
          exact htracked.refs id thread id' hthread hid'
        have hsession : (c.called.withoutSession id).host.sessions.lookup id = none := by
          simp [withoutSession]
        have hended := @endThread_orphans_iff env id thread threadId (c.called.withoutSession id)
          hsession hrefs
        rw [← deleteSession_removed hthread hid hlock] at hended
        exact hended.trans ⟨fun h _ _ _ => h, fun h => h rfl rfl rfl⟩

/-! ### A thread that cannot be shut down -/

/-- Every call succeeds, but a thread's actor refuses to shut down. -/
def ClosingEnv.refusedShutdown : ClosingEnv where
  toHostEnv :=
    { HostEnv.refusedLoad with
      bringUp := fun request _ =>
        match request with
        | .loadSession id | .resumeSession id => .ok id
        | .newSession | .forkSession _ => .ok "thread"
      load := fun _ => .ok { modes := ⟨"default", []⟩, configOptions := [] }
      shutdown := fun _ => .error .internalError }
  removeFile := fun _ => .removed
  deleteThread := fun _ => .ok 0

/-- The agent once a session was opened. -/
def ClosingHost.opened : ClosingHost where
  host := (SessionHost.openSession ClosingEnv.refusedShutdown.toHostEnv { cwd := "/" }
    .newSession .fresh).2

/-- The thread of that session. -/
def openedThread : HostedThread := { thread := 0, threadId := "thread", mcpBridges := [] }

theorem opened_tracked : Tracked ClosingEnv.refusedShutdown.toHostEnv ClosingHost.opened.host := by
  have hids : KeepsThreadIds ClosingEnv.refusedShutdown.toHostEnv := by
    intro request n threadId hbrought threadId' hid
    cases request <;> cases hbrought <;> cases hid <;> rfl
  exact tracked_of_requests hids [.opening { cwd := "/" } .newSession]

/-- Closing a session whose thread refuses leaves it in the map. -/
theorem closing_orphans_close :
    ClosingHost.opened.host.sessions.lookup "thread" = some openedThread ∧
      ∀ e d, Closing.close.handle .refusedShutdown "thread" .opened = (.error e, d) →
        NotOrphaned "thread" openedThread d :=
  ⟨by decide, (closing_orphans_iff opened_tracked .close (by decide)).mpr nofun⟩

/-- Deleting it takes it out of the map, and leaves the thread running. -/
theorem deleted_thread_orphaned : ∃ e d,
    Closing.delete.handle .refusedShutdown "thread" .opened = (.error e, d) ∧
      ClosingHost.opened.host.sessions.lookup "thread" = some openedThread ∧
      ¬ NotOrphaned "thread" openedThread d := by
  refine ⟨.internalError, (Closing.delete.handle .refusedShutdown "thread" .opened).2, rfl,
    by decide, ?_⟩
  rintro (hsession | ⟨hended, -⟩)
  · exact absurd hsession (by decide)
  · exact absurd hended (by decide)

end CodexAcp.Agent
