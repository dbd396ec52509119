import CodexAcp.Agent.SessionOpening

/-!
# A failed request leaves its thread behind

Codex's `ThreadManager` keeps a thread until it is told to remove it. Closing and
deleting a session tell it; a request to open one that fails after its thread was
brought up shuts the thread down, and does not.

> `openSession_error`: a request that fails left the threads as they were, or brought
> one up that the `ThreadManager` keeps.
> `failed_opening_leaves_thread`: a request that fails after its thread was brought up
> never leaves the sessions and the `ThreadManager` as they were.
-/

namespace CodexAcp.Agent

open CodexAcp.Lib CodexAcp.Protocol Handler

namespace SessionHost

/-! ## What the steps do to the threads -/

/-- Sessions and threads are left alone. -/
structure SameThreads (s t : SessionHost) : Prop where
  sessions : t.sessions = s.sessions
  registry : t.registry = s.registry
  threads : t.threads = s.threads

theorem sameThreads_refl (s : SessionHost) : SameThreads s s := ⟨rfl, rfl, rfl⟩

theorem SameThreads.trans {s t u : SessionHost} (h : SameThreads s t) (h' : SameThreads t u) :
    SameThreads s u :=
  ⟨h'.sessions.trans h.sessions, h'.registry.trans h.registry, h'.threads.trans h.threads⟩

section Requests

variable {env : HostEnv}

theorem frame_sameThreads {ε α : Type} {x : Handler SessionHost ε α} (h : Frame Quiet x) :
    Frame SameThreads x :=
  fun s => ⟨(h s).sessions, (h s).registry, (h s).threads⟩

theorem sameThreads_bind {ε α β : Type} {x : Handler SessionHost ε α}
    {f : α → Handler SessionHost ε β} (hx : Frame SameThreads x)
    (hf : ∀ a, Frame SameThreads (f a)) : Frame SameThreads (x >>= f) :=
  frame_bind (R := SameThreads) SameThreads.trans hx hf

theorem onBridges_sameThreads {α : Type} (x : Handler BridgeState Error α) :
    Frame SameThreads (onBridges x) := fun _ => ⟨rfl, rfl, rfl⟩

theorem buildConfig_sameThreads (env : HostEnv) (params : OpeningParams)
    (additionalDirectories : List String) :
    Frame SameThreads (buildConfig env params additionalDirectories) :=
  sameThreads_bind (frame_sameThreads (frame_attempt gatewayAuth_quiet))
    fun _ => onBridges_sameThreads _

theorem shutdown_sameThreads (thread : HostedThread) : Frame SameThreads (shutdown env thread) :=
  sameThreads_bind (fun _ => ⟨rfl, rfl, rfl⟩) fun _ =>
    sameThreads_bind (onBridges_sameThreads _) fun _ _ => ⟨rfl, rfl, rfl⟩

theorem bringUp_failFrame (env : HostEnv) (request : Opening) :
    FailFrame SameThreads (bringUp env request) := by
  refine failFrame_then (failFrame_of_frame (frame_mapError fun _ => ⟨rfl, rfl, rfl⟩)) ?_
  exact fun threadId s => ⟨(threadId, s.threads), rfl⟩

theorem insertSessionThread_failFrame (id : SessionId) (thread : HostedThread) :
    FailFrame SameThreads (insertSessionThread env id thread) := by
  refine failFrame_then (failFrame_of_frame fun _ => ⟨rfl, rfl, rfl⟩) ?_
  exact fun _ s => ⟨(), rfl⟩

/-- The `ThreadManager` has one more thread. -/
def Registers (s t : SessionHost) : Prop :=
  t.sessions = s.sessions ∧ ∃ threadId, t.registry = s.registry.insert threadId s.threads

theorem bringUp_registers {request : Opening} {s t : SessionHost} {result : ThreadId × ThreadRef}
    (h : bringUp env request s = (.ok result, t)) : Registers s t := by
  obtain ⟨threadId, s₁, hcall, hregister⟩ := bind_ok_inv h
  have hsame : SameThreads s s₁ := by
    have hframe : Frame SameThreads (mapError request.startError (tryCall (env.bringUp request))) :=
      frame_mapError fun _ => ⟨rfl, rfl, rfl⟩
    have hs := hframe s
    rw [hcall] at hs
    exact hs
  cases hregister
  refine ⟨hsame.sessions, threadId, ?_⟩
  show s₁.registry.insert threadId s₁.threads = _
  rw [hsame.registry, hsame.threads]

/-- A request that fails left the threads as they were, or registered one. -/
def FailedOpening (s t : SessionHost) : Prop := SameThreads s t ∨ Registers s t

theorem openThread_error (request : Opening) (params : OpeningParams)
    (additionalDirectories : List String) (replays : Bool) :
    FailFrame FailedOpening (openThread env request params additionalDirectories replays) := by
  intro s e s' hrun
  rcases bind_error_inv hrun with hbuild | ⟨build, s₁, hbuild, hrun₁⟩
  · have hs := buildConfig_sameThreads env params additionalDirectories s
    rw [hbuild] at hs
    exact Or.inl hs
  have hs₁ := buildConfig_sameThreads env params additionalDirectories s
  rw [hbuild] at hs₁
  rcases bind_error_inv hrun₁ with hbring | ⟨⟨threadId, ref⟩, s₂, hbring, hrun₂⟩
  · have hfail := failFrame_onError (R := SameThreads) SameThreads.trans
      (bringUp_failFrame env request) (onBridges_sameThreads _) s₁ e s' hbring
    exact Or.inl (hs₁.trans hfail)
  -- the thread is there: what fails from now on leaves it there
  have hcleaned : ∀ {α : Type} {x : Handler SessionHost Error α} (thread : HostedThread),
      Frame SameThreads x → Frame SameThreads (onError x (shutdown env thread)) :=
    fun thread hx => frame_onError (R := SameThreads) SameThreads.trans hx
      (shutdown_sameThreads thread)
  have hs' : SameThreads s₂ s' := by
    refine failFrame_bind (R := SameThreads) SameThreads.trans ?_ (fun _ => ?_) s₂ e s' hrun₂
    · exact frame_onlyIf sameThreads_refl (hcleaned _ (frame_sameThreads (tryCall_quiet _)))
    refine failFrame_bind (R := SameThreads) SameThreads.trans
      (hcleaned _ (frame_sameThreads (tryCall_quiet _))) fun load => ?_
    refine failFrame_then ?_ fun _ s => ⟨_, rfl⟩
    exact failFrame_onError (R := SameThreads) SameThreads.trans
      (insertSessionThread_failFrame _ _) (shutdown_sameThreads _)
  obtain ⟨hsessions, id, hregistry⟩ := bringUp_registers (onError_ok_inv hbring)
  refine Or.inr ⟨hs'.sessions.trans (hsessions.trans hs₁.sessions), id, ?_⟩
  rw [hs'.registry, hregistry, hs₁.registry, hs₁.threads]

/-- **Failed requests.** A request that fails left the threads as they were, or its
thread is the one the `ThreadManager` has more. -/
theorem openSession_error (params : OpeningParams) (request : Opening) :
    FailFrame FailedOpening (openSession env params request) := by
  refine openSession_induction ?_ ?_ ?_ request
  · intro x hquiet
    exact failFrame_of_frame fun s => Or.inl (frame_sameThreads hquiet s)
  · intro α x f hquiet hf s e s' hrun
    rcases bind_error_inv hrun with hx | ⟨a, s₁, hx, hrest⟩
    · have hs := frame_sameThreads hquiet s
      rw [hx] at hs
      exact Or.inl hs
    · have hs := frame_sameThreads hquiet s
      rw [hx] at hs
      rcases hf a s₁ e s' hrest with hsame | ⟨hsessions, id, hregistry⟩
      · exact Or.inl (hs.trans hsame)
      · exact Or.inr ⟨hsessions.trans hs.sessions, id, by rw [hregistry, hs.registry, hs.threads]⟩
  · intro request additionalDirectories replays
    refine failFrame_then ?_ fun _ s => ⟨_, rfl⟩
    exact openThread_error request params additionalDirectories replays

end Requests

/-! ## Nothing of a failed request is left, but never -/

/-- Sessions and threads are as they were. -/
def LeavesNoTrace (s t : SessionHost) : Prop :=
  t.sessions = s.sessions ∧ t.registry = s.registry

theorem not_leavesNoTrace {s t : SessionHost} (h : Registers s t) : ¬ LeavesNoTrace s t := by
  rintro ⟨_, hsame⟩
  obtain ⟨_, threadId, hregistry⟩ := h
  -- the thread would have been there before, under a number no thread has yet
  have hfound : s.registry.lookup threadId = some s.threads := by
    rw [← hsame, hregistry, AList.lookup_insert]
  exact Nat.lt_irrefl _ (s.registry_lt threadId s.threads hfound)

end SessionHost

open SessionHost

/-- **Leaked threads.** A request that fails after its thread was brought up never
leaves sessions and threads as they were: the `ThreadManager` keeps the thread. -/
theorem failed_opening_leaves_thread {env : HostEnv} {params : OpeningParams} {request : Opening}
    {s s' : SessionHost} {e : Error} (h : openSession env params request s = (.error e, s'))
    (hstarted : s.threads < s'.threads) : ¬ LeavesNoTrace s s' := by
  rcases openSession_error params request s e s' h with hsame | hregisters
  · rw [hsame.threads] at hstarted
    exact absurd hstarted (Nat.lt_irrefl _)
  · exact not_leavesNoTrace hregisters

/-! ### A thread whose actor cannot be loaded -/

/-- Every call succeeds, but the thread's actor refuses to load. -/
def HostEnv.refusedLoad : HostEnv where
  session :=
    { codex := Codex.sample
      lib :=
        { decodeMcpServerMeta := fun _ => .ok {}
          validateSource := fun _ => .ok ()
          absolutePath := .ok
          defaultMcpServerEnvironmentId := "local" }
      config :=
        { session := Config.sample
          workspaceRoots := []
          workspaceRootsExplicit := false
          modelProviderId := "local"
          modelProvider := ⟨"local", none, none⟩
          modelProviders := ∅
          mcpServers := .free ∅ }
      initialAgentMode := none
      disableMcpConfigFiltering := none
      startBridge := fun _ => .ok ("http://127.0.0.1/mcp", "token") }
  store := plainStore
  gatewayPoisoned := fun _ => false
  sessionsPoisoned := fun _ => false
  reload := fun _ => false
  findThreadPath := fun _ => .ok (some "rollout.jsonl")
  getRolloutHistory := fun _ => .ok .new
  flushRollout := fun _ => .ok ()
  bringUp := fun _ _ => .ok "thread"
  replayHistory := fun _ => .ok ()
  load := fun _ => .error .internalError
  replaceClient := fun _ => .ok ()
  shutdown := fun _ => .ok ()

/-- No session and no thread yet. -/
def SessionHost.fresh : SessionHost where
  registry_lt _ _ h := by cases h

/-- The first session cannot be loaded: the `ThreadManager` keeps its thread. -/
theorem failed_opening_leaves_thread_refused :
    ¬ LeavesNoTrace .fresh (openSession .refusedLoad { cwd := "/" } .newSession .fresh).2 :=
  have hrefused : openSession .refusedLoad { cwd := "/" } .newSession .fresh =
      (.error .internalError, (openSession .refusedLoad { cwd := "/" } .newSession .fresh).2) := rfl
  failed_opening_leaves_thread hrefused (by decide)

/-- A request that fails after its thread was brought up leaves it behind. -/
theorem failed_opening_keeps_thread :
    ¬ ∀ (env : HostEnv) (params : OpeningParams) (request : Opening) (s s' : SessionHost)
      (e : Error), openSession env params request s = (.error e, s') → s.threads < s'.threads →
        LeavesNoTrace s s' := by
  intro h
  obtain ⟨_, hregistry⟩ := h .refusedLoad { cwd := "/" } .newSession .fresh
    (openSession .refusedLoad { cwd := "/" } .newSession .fresh).2 .internalError rfl (by decide)
  have hempty : (openSession .refusedLoad { cwd := "/" } .newSession .fresh).2.registry.lookup
      "thread" = none := by
    rw [hregistry]
    rfl
  cases hempty

end CodexAcp.Agent
