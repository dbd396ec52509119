import CodexAcp.Bridge.Balance
import CodexAcp.Bridge.Isolation

/-!
# What the bridge passes on

What reaches an MCP server of the client is what was posted to the bridge with the token,
and nothing else; and it takes a connection that the client opened for the bridge.

> `forwarded_authorized`: what is passed on, finished or not, are calls of posts with the
> token, each once and in order, over connections that the client opened.
-/

namespace CodexAcp.Bridge

open CodexAcp.Lib CodexAcp.Protocol

namespace Http

variable {setup : Setup} {s s' : Http}

/-! ## Connections -/

/-- The client opened the connection of the bridge, and those that calls still hold. -/
structure Opened (b : AcpMcpBridge) : Prop where
  running : ∀ c, b.inner = .running c → c ∈ b.connected
  held : ∀ n at' c, b.inFlight.lookup n = some at' → at'.holds = some c → c ∈ b.connected

theorem opened_empty : Opened {} := ⟨nofun, nofun⟩

section Opened

variable {b b' b₀ : AcpMcpBridge} {n : CallId} {at' : Suspended}

/-- A call waits, after the bridge was changed where it does not matter. -/
theorem Opened.suspended (h : Opened b) (hcalls : b₀.inFlight = b.inFlight)
    (hconnected : b.connected ⊆ b₀.connected)
    (hinner : ∀ c, b₀.inner = .running c → c ∈ b₀.connected)
    (hat : ∀ c, at'.holds = some c → c ∈ b₀.connected) :
    Opened (b₀.suspend n at') ∧ b.connected ⊆ (b₀.suspend n at').connected := by
  refine ⟨⟨hinner, fun m s c hs hc => ?_⟩, hconnected⟩
  rcases Dict.lookup_insert_eq_some.mp hs with ⟨_, rfl⟩ | ⟨_, hold⟩
  · exact hat c hc
  · rw [hcalls] at hold
    exact hconnected (h.held m s c hold hc)

theorem Opened.finished {call : Call} {result : Except Error Unit} (h : Opened b)
    (hcalls : b₀.inFlight = b.inFlight)
    (hconnected : b.connected ⊆ b₀.connected)
    (hinner : ∀ c, b₀.inner = .running c → c ∈ b₀.connected) :
    Opened (b₀.finish n call result) ∧ b.connected ⊆ (b₀.finish n call result).connected := by
  refine ⟨⟨hinner, fun m s c hs hc => ?_⟩, hconnected⟩
  have hold := (Dict.lookup_erase_eq_some.mp hs).2
  rw [hcalls] at hold
  exact hconnected (h.held m s c hold hc)

/-- A call waits that was given a connection. -/
theorem Opened.connected (h : Opened b) {id : McpConnectionId} (hat : at'.holds = some id) :
    Opened ((b.connect id).suspend n at') ∧
      b.connected ⊆ ((b.connect id).suspend n at').connected := by
  refine h.suspended rfl (List.subset_append_left ..) (fun c hc => ?_) fun c hc => ?_
  · exact List.mem_append_left _ (h.running c hc)
  · rw [hat] at hc
    cases hc
    exact List.mem_append_right _ (List.mem_singleton.mpr rfl)

theorem Opened.invoke (h : Opened b) {call : Call} (hstep : b.invoke n call = some b') :
    Opened b' ∧ b.connected ⊆ b'.connected := by
  have hsame := List.Subset.refl b.connected
  unfold AcpMcpBridge.invoke at hstep
  cases call with
  | start =>
    dsimp only at hstep
    split at hstep
    next => cases hstep; exact h.suspended rfl hsame nofun nofun
    next => cases hstep
  | replaceConnection =>
    dsimp only at hstep
    split at hstep
    next => cases hstep; exact h.suspended rfl hsame h.running nofun
    next => cases hstep
  | shutdown =>
    dsimp only at hstep
    split at hstep
    next =>
      split at hstep
      next => cases hstep; exact h.suspended rfl hsame h.running nofun
      next => cases hstep; exact h.suspended rfl hsame h.running nofun
    next => cases hstep

theorem Opened.resume (h : Opened b) {reply : Reply} (hs : b.inFlight.lookup n = some at')
    (hstep : b.resume n at' reply = some b') : Opened b' ∧ b.connected ⊆ b'.connected := by
  have hsame := List.Subset.refl b.connected
  have hheld := h.held n at'
  unfold AcpMcpBridge.resume at hstep
  split at hstep
  next => cases hstep; exact h.connected rfl
  next => cases hstep; exact h.finished rfl hsame nofun
  next connectionId =>
    cases hstep
    refine h.finished rfl hsame fun c hc => ?_
    cases hc
    exact hheld _ hs rfl
  next => cases hstep; exact h.finished rfl hsame nofun
  next => cases hstep; exact h.connected rfl
  next => cases hstep; exact h.finished rfl hsame h.running
  next newConnectionId =>
    unfold AcpMcpBridge.replaceState at hstep
    split at hstep
    next =>
      cases hstep
      refine h.suspended rfl hsame (fun c hc => ?_) nofun
      cases hc
      exact hheld _ hs rfl
    next => cases hstep
  next => cases hstep; exact h.finished rfl hsame h.running
  next => cases hstep; exact h.finished rfl hsame h.running
  next => cases hstep; exact h.suspended rfl hsame h.running nofun
  next => cases hstep; exact h.suspended rfl hsame h.running nofun
  next =>
    unfold AcpMcpBridge.readState at hstep
    split at hstep
    next => cases hstep; exact h.suspended rfl hsame h.running nofun
    next => cases hstep
  next => cases hstep; exact h.finished rfl hsame h.running
  next => cases hstep; exact h.finished rfl hsame h.running
  next => cases hstep

theorem Opened.step (h : Opened b) {l : Label} (hstep : b.step l = some b') :
    Opened b' ∧ b.connected ⊆ b'.connected := by
  cases l with
  | invoke n call => exact h.invoke (AcpMcpBridge.step_invoke hstep).2
  | resume n reply =>
    obtain ⟨at', hs, hstep⟩ := AcpMcpBridge.step_resume hstep
    exact h.resume hs hstep

end Opened

/-- Messages are passed on over connections that the client opened. -/
structure OverOpened (s : Http) : Prop where
  opened : Opened s.bridge
  log : ∀ entry ∈ s.log, entry.2.connectionId ∈ s.bridge.connected

theorem OverOpened.step (h : OverOpened s) {l : HttpLabel} (hstep : s.step setup l = some s') :
    OverOpened s' := by
  cases l with
  | bridge label =>
    obtain ⟨bridge, hbridge, rfl⟩ := Option.map_eq_some_iff.mp hstep
    obtain ⟨hopened, hmore⟩ := h.opened.step hbridge
    exact ⟨hopened, fun entry hentry => hmore (h.log entry hentry)⟩
  | arrive request =>
    simp only [Http.step] at hstep
    split at hstep
    · cases hstep
      exact ⟨h.opened, h.log⟩
    · cases hstep
  | lock n =>
    simp only [Http.step] at hstep
    split at hstep
    next request handling he =>
      unfold lock at hstep
      split at hstep
      next connectionId _ hinner =>
        cases hstep
        refine ⟨h.opened, List.forall_mem_append.mpr ⟨h.log, ?_⟩⟩
        exact List.forall_mem_singleton.mpr (h.opened.running connectionId hinner)
      next => cases hstep
    next => cases hstep
  | answer n result =>
    simp only [Http.step] at hstep
    split at hstep
    next =>
      unfold answer at hstep
      split at hstep
      next => cases hstep; exact ⟨h.opened, h.log⟩
      next => cases hstep
    next => cases hstep
  | drop n =>
    simp only [Http.step] at hstep
    split at hstep
    next => cases hstep; exact ⟨h.opened, h.log⟩
    next => cases hstep

theorem overOpened_of_run {labels : List HttpLabel}
    (hrun : exec (Http.step setup) {} labels = some s) : OverOpened s :=
  exec_invariant (C := fun _ _ _ => True) (fun _ _ _ h _ hstep => h.step hstep) labels
    ⟨opened_empty, List.forall_mem_nil _⟩ (along_of_forall (fun _ _ _ => trivial) _ _) hrun

end Http

/-- **What is passed on** in any interleaving are calls of posts with the token, each once and in
order, and all of them before the response; over connections that the client opened. -/
theorem forwarded_authorized (setup : Setup) {labels : List HttpLabel} {s : Http}
    (hrun : exec (Http.step setup) {} labels = some s) (n : Nat) :
    (∀ e, s.exchanges[n]? = some e →
      (s.own n).map Forwarded.call <+: setup.calls e.request ∧
        ∀ response, e.handler = .responded response →
          (s.own n).map Forwarded.call = setup.calls e.request) ∧
    (s.exchanges[n]? = none → s.own n = []) ∧
    ∀ f ∈ s.own n, f.connectionId ∈ s.bridge.connected := by
  have hhandled := Http.handled_of_run hrun
  refine ⟨fun e he => ?_, fun hnone => ?_, fun f hf => ?_⟩
  · have hsound := hhandled.sound n e he
    refine ⟨hsound.calls, fun response hresponse => ?_⟩
    rw [hresponse] at hsound
    cases hsound with
    | responded h => exact h.calls
  · exact (hhandled.unknown n (List.getElem?_eq_none_iff.mp hnone)).1
  · obtain ⟨entry, hentry, heq⟩ := List.mem_filterMap.mp hf
    obtain ⟨_, heq⟩ := Option.ite_none_right_eq_some.mp heq
    cases heq
    exact (Http.overOpened_of_run hrun).log entry hentry

/-- The request is passed on over the first of the two connections. -/
theorem forwarded_authorized_ping :
    ∃ s, exec (Http.step .sample) {} sampleLabels = some s ∧
      (s.own 0).map Forwarded.call = [("ping", none, true)] ∧
      ∀ f ∈ s.own 0, f.connectionId ∈ s.bridge.connected := by
  obtain ⟨s, hrun⟩ : ∃ s, exec (Http.step .sample) {} sampleLabels = some s := ⟨_, rfl⟩
  have hexchange : ((exec (Http.step .sample) {} sampleLabels).bind (·.exchanges[0]?)) =
      some ⟨sampleRequest, .responded samplePong⟩ := rfl
  rw [hrun] at hexchange
  obtain ⟨hknown, _, hconnections⟩ := forwarded_authorized .sample hrun 0
  exact ⟨s, hrun, (hknown _ hexchange).2 _ rfl, hconnections⟩

end CodexAcp.Bridge
