import CodexAcp.Bridge.AcpMcpBridge

/-!
# A session gets a new client

A client that reconnects takes over a session that runs: every bridge of the
session is moved to the new client, one after the other, and then the actor is
told about it. Each bridge can fail to connect, and the actor may be gone; the
bridges moved before the failure stay where they are.

> `replaceClient_whole_iff`: the call is all or nothing exactly when every step
> succeeds, or the first bridge fails to connect, or there is no bridge.
> `replaceConnection_run`: what a bridge does here in one move is what the call
> does from `await` to `await` when it runs alone.
-/

namespace CodexAcp.Bridge

open CodexAcp.Lib CodexAcp.Protocol

/-! ## Bridges and threads -/

/-- Where a bridge is connected: a client, and the id the client gave the connection. -/
structure BridgeConnectionState (γ : Type) where
  cx : γ
  connectionId : McpConnectionId

/-- A bridge that was started. -/
structure SessionBridge (γ : Type) where
  acpId : String
  metadata : Option Json
  state : BridgeConnectionState γ

/-- The client the actor of a session talks to. -/
structure SessionClient (γ : Type) where
  sessionId : String
  cx : γ

/-- A session that runs: its bridges, and its actor, which may be gone. -/
structure SessionThread (γ : Type) where
  bridges : List (SessionBridge γ)
  client : SessionClient γ
  actorRunning : Bool

/-- What a client answers `mcp/connect`, by the number of connects sent before. -/
abbrev Connects (γ : Type) :=
  Nat → γ → String → Option Json → Except Error McpConnectionId

variable {γ : Type}

/-- Connect to the new client, and move there. The old connection is asked to close; what
the old client answers is only logged. -/
def SessionBridge.replaceConnection (connects : Connects γ) (n : Nat) (cx : γ)
    (b : SessionBridge γ) : Except Error Unit × SessionBridge γ :=
  match connects n cx b.acpId b.metadata with
  | .error e => (.error e, b)
  | .ok newConnectionId => (.ok (), { b with state := ⟨cx, newConnectionId⟩ })

/-- Move the bridges one after the other, up to the first that fails. -/
def replaceConnections (connects : Connects γ) (cx : γ) :
    Nat → List (SessionBridge γ) → Except Error Unit × List (SessionBridge γ)
  | _, [] => (.ok (), [])
  | n, b :: bs =>
    match b.replaceConnection connects n cx with
    | (.error e, b) => (.error e, b :: bs)
    | (.ok (), b) =>
      let (result, bs) := replaceConnections connects cx (n + 1) bs
      (result, b :: bs)

def threadActorNotRunningError : Error := Error.internalError.withData "thread actor is not running"

namespace SessionThread

/-- Move the bridges, then tell the actor. -/
def replaceClient (connects : Connects γ) (sessionId : String) (cx : γ) (t : SessionThread γ) :
    Except Error Unit × SessionThread γ :=
  match replaceConnections connects cx 0 t.bridges with
  | (.error e, bridges) => (.error e, { t with bridges })
  | (.ok (), bridges) =>
    if t.actorRunning then (.ok (), { t with bridges, client := ⟨sessionId, cx⟩ })
    else (.error threadActorNotRunningError, { t with bridges })

/-- What the call may come to: it succeeded and the bridges are all on connections of the
new client and the actor talks to it, or it failed and none of them moved. -/
def ReplacesWhole (connects : Connects γ) (sessionId : String) (cx : γ) (t : SessionThread γ) :
    Prop :=
  match t.replaceClient connects sessionId cx with
  | (.ok (), t') =>
    t'.bridges.length = t.bridges.length ∧
      (∀ (i : Nat) (b : SessionBridge γ), t.bridges[i]? = some b →
        ∃ id, connects i cx b.acpId b.metadata = .ok id ∧
          t'.bridges[i]? = some { b with state := ⟨cx, id⟩ }) ∧
      t'.client = ⟨sessionId, cx⟩
  | (.error _, t') => t'.bridges = t.bridges ∧ t'.client = t.client

/-- The client gives every connection an id of its own. -/
def FreshConnections (connects : Connects γ) (t : SessionThread γ) : Prop :=
  ∀ n cx acpId metadata id, connects n cx acpId metadata = .ok id →
    ∀ b ∈ t.bridges, b.state.connectionId ≠ id

/-- The bridge connects, as the `n`-th that does. -/
def connectsAt (connects : Connects γ) (cx : γ) (n : Nat) (b : SessionBridge γ) : Bool :=
  (connects n cx b.acpId b.metadata).isOk

/-- The condition: every step succeeds, or nothing was moved before the one that fails. -/
def MovesWhole (connects : Connects γ) (cx : γ) (t : SessionThread γ) : Prop :=
  ((∀ (i : Nat) (b : SessionBridge γ), t.bridges[i]? = some b → connectsAt connects cx i b = true) ∧
      t.actorRunning = true) ∨
    ∀ b ∈ t.bridges.head?, connectsAt connects cx 0 b = false

end SessionThread

/-! ## The loop -/

section Loop

open SessionThread

variable {connects : Connects γ} {cx : γ} {n : Nat} {b : SessionBridge γ}
  {bs : List (SessionBridge γ)}

theorem replaceConnections_cons_ok {id : McpConnectionId}
    (h : connects n cx b.acpId b.metadata = .ok id) :
    replaceConnections connects cx n (b :: bs) =
      ((replaceConnections connects cx (n + 1) bs).1,
        { b with state := ⟨cx, id⟩ } :: (replaceConnections connects cx (n + 1) bs).2) := by
  rw [replaceConnections, SessionBridge.replaceConnection, h]

theorem replaceConnections_cons_error {e : Error}
    (h : connects n cx b.acpId b.metadata = .error e) :
    replaceConnections connects cx n (b :: bs) = (.error e, b :: bs) := by
  rw [replaceConnections, SessionBridge.replaceConnection, h]

/-- The loop gets through when every bridge connects. -/
theorem replaceConnections_ok_iff :
    (replaceConnections connects cx n bs).1 = .ok () ↔
      ∀ (i : Nat) (b : SessionBridge γ), bs[i]? = some b → connectsAt connects cx (n + i) b = true := by
  induction bs generalizing n with
  | nil => exact ⟨fun _ i b h => by simp at h, fun _ => rfl⟩
  | cons b bs ih =>
    cases h : connects n cx b.acpId b.metadata with
    | error e =>
      rw [replaceConnections_cons_error h]
      refine ⟨nofun, fun hall => ?_⟩
      have hfirst := hall 0 b rfl
      unfold connectsAt at hfirst
      rw [Nat.add_zero, h] at hfirst
      cases hfirst
    | ok id =>
      rw [replaceConnections_cons_ok h]
      dsimp only
      rw [ih]
      constructor
      · intro hall i b' hb'
        cases i with
        | zero =>
          cases hb'
          unfold connectsAt
          rw [Nat.add_zero, h]
          rfl
        | succ i =>
          rw [show n + (i + 1) = n + 1 + i by omega]
          exact hall i b' hb'
      · intro hall i b' hb'
        rw [show n + 1 + i = n + (i + 1) by omega]
        exact hall (i + 1) b' hb'

theorem length_replaceConnections :
    (replaceConnections connects cx n bs).2.length = bs.length := by
  induction bs generalizing n with
  | nil => rfl
  | cons b bs ih =>
    cases h : connects n cx b.acpId b.metadata with
    | error e => rw [replaceConnections_cons_error h]
    | ok id => rw [replaceConnections_cons_ok h, List.length_cons, List.length_cons, ih]

/-- A loop that gets through moves every bridge to a connection the new client opened. -/
theorem replaceConnections_moved (hok : (replaceConnections connects cx n bs).1 = .ok ())
    {i : Nat} (hb : bs[i]? = some b) :
    ∃ id, connects (n + i) cx b.acpId b.metadata = .ok id ∧
      (replaceConnections connects cx n bs).2[i]? = some { b with state := ⟨cx, id⟩ } := by
  induction bs generalizing n i with
  | nil => simp at hb
  | cons b' bs ih =>
    cases h : connects n cx b'.acpId b'.metadata with
    | error e =>
      rw [replaceConnections_cons_error h] at hok
      cases hok
    | ok id =>
      rw [replaceConnections_cons_ok h] at hok ⊢
      cases i with
      | zero =>
        cases hb
        exact ⟨id, h, rfl⟩
      | succ i =>
        rw [show n + (i + 1) = n + 1 + i by omega]
        exact ih hok hb

end Loop

/-! ## The result -/

section Result

open SessionThread

variable {connects : Connects γ} {cx : γ} {t : SessionThread γ}

/-- A call that fails leaves the bridges as the loop left them, and the actor alone. -/
theorem replaceClient_error {sessionId : String} {e : Error} {t' : SessionThread γ}
    (h : t.replaceClient connects sessionId cx = (.error e, t')) :
    t'.bridges = (replaceConnections connects cx 0 t.bridges).2 ∧ t'.client = t.client := by
  unfold replaceClient at h
  split at h
  next hloop =>
    cases h
    rw [hloop]
    exact ⟨rfl, rfl⟩
  next hloop =>
    split at h
    next => cases h
    next =>
      cases h
      rw [hloop]
      exact ⟨rfl, rfl⟩

/-- A call that succeeds got through the loop and reached the actor. -/
theorem replaceClient_ok {sessionId : String} {t' : SessionThread γ}
    (h : t.replaceClient connects sessionId cx = (.ok (), t')) :
    (replaceConnections connects cx 0 t.bridges).1 = .ok () ∧ t.actorRunning = true ∧
      t' = { t with
        bridges := (replaceConnections connects cx 0 t.bridges).2, client := ⟨sessionId, cx⟩ } := by
  unfold replaceClient at h
  split at h
  next => cases h
  next hloop =>
    split at h
    next hrunning =>
      cases h
      rw [hloop]
      exact ⟨rfl, hrunning, rfl⟩
    next => cases h

/-- The loop moves no bridge exactly when the first one does not connect. -/
theorem replaceConnections_unmoved_iff (hfresh : FreshConnections connects t) :
    (replaceConnections connects cx 0 t.bridges).2 = t.bridges ↔
      ∀ b ∈ t.bridges.head?, connectsAt connects cx 0 b = false := by
  unfold FreshConnections at hfresh
  cases hbridges : t.bridges with
  | nil => exact ⟨fun _ => nofun, fun _ => rfl⟩
  | cons b bs =>
    have hold := hfresh 0 cx b.acpId b.metadata
    rw [hbridges] at hold
    unfold connectsAt
    cases h : connects 0 cx b.acpId b.metadata with
    | error e =>
      rw [replaceConnections_cons_error h]
      refine ⟨fun _ b' hb' => ?_, fun _ => rfl⟩
      cases hb'
      rw [h]
      rfl
    | ok id =>
      rw [replaceConnections_cons_ok h]
      constructor
      · intro heq
        have hstate : ({ cx, connectionId := id } : BridgeConnectionState γ) = b.state :=
          congrArg SessionBridge.state (List.cons.inj heq).1
        exact absurd (congrArg BridgeConnectionState.connectionId hstate).symm
          (hold id h b (List.mem_cons_self ..))
      · intro hrefused
        have := hrefused b rfl
        rw [h] at this
        cases this

/-- **Replacing the client is all or nothing** exactly when every step succeeds, or no
bridge was moved before the step that fails. -/
theorem replaceClient_whole_iff (connects : Connects γ) (sessionId : String) (cx : γ)
    (t : SessionThread γ) (hfresh : FreshConnections connects t) :
    t.ReplacesWhole connects sessionId cx ↔ t.MovesWhole connects cx := by
  unfold ReplacesWhole MovesWhole
  have hunmoved := @replaceConnections_unmoved_iff γ connects cx t hfresh
  have hloop := @replaceConnections_ok_iff γ connects cx 0 t.bridges
  simp only [Nat.zero_add] at hloop
  match hrun : t.replaceClient connects sessionId cx with
  | (.ok (), t') =>
    obtain ⟨hok, hrunning, rfl⟩ := replaceClient_ok hrun
    refine ⟨fun _ => .inl ⟨hloop.mp hok, hrunning⟩, fun _ => ⟨length_replaceConnections, ?_, rfl⟩⟩
    intro i b hb
    have hmoved := replaceConnections_moved hok hb
    rwa [Nat.zero_add] at hmoved
  | (.error e, t') =>
    obtain ⟨hbridges, hclient⟩ := replaceClient_error hrun
    dsimp only
    rw [hbridges, and_iff_left hclient, hunmoved, or_iff_right]
    -- A call whose every step succeeds does not fail.
    rintro ⟨hall, hrunning⟩
    have hok := hloop.mpr hall
    unfold replaceClient at hrun
    split at hrun
    next hbroken =>
      rw [hbroken] at hok
      cases hok
    next =>
      rw [if_pos hrunning] at hrun
      cases hrun

end Result

/-! ## Two bridges -/

section Sample

open SessionThread

/-- A thread with two bridges, on the connections the old client opened. -/
def SessionThread.sample : SessionThread String where
  bridges :=
    [{ acpId := "first", metadata := none, state := ⟨"old", "old-first"⟩ },
     { acpId := "second", metadata := none, state := ⟨"old", "old-second"⟩ }]
  client := ⟨"session", "old"⟩
  actorRunning := true

/-- A client that numbers the connections it opens. -/
def connectsAll : Connects String := fun n _ _ _ => .ok ("new-" ++ toString n)

/-- A client that does not open the connection of the second bridge. -/
def connectsFirst : Connects String := fun n _ acpId _ =>
  if acpId = "second" then .error Error.internalError else .ok ("new-" ++ toString n)

theorem replaceClient_whole_sample :
    FreshConnections connectsAll SessionThread.sample ∧
      SessionThread.sample.ReplacesWhole connectsAll "session" "new" := by
  have hfresh : FreshConnections connectsAll SessionThread.sample := by
    rintro n cx acpId metadata id h b hb rfl
    have hnew : b.state.connectionId.toList.head? = some 'n' := by
      rw [← Except.ok.inj h, String.toList_append]
      rfl
    have hold : ∀ b ∈ SessionThread.sample.bridges,
        b.state.connectionId.toList.head? = some 'o' := by decide
    rw [hold b hb] at hnew
    cases hnew
  refine ⟨hfresh, (replaceClient_whole_iff _ "session" "new" SessionThread.sample hfresh).mpr ?_⟩
  exact .inl ⟨fun i b _ => rfl, rfl⟩

/-- **A bridge that stays moved.** The second bridge does not connect and the call fails,
with the first bridge at the new client and the actor at the old one. -/
theorem replaceClient_half :
    (let run := SessionThread.sample.replaceClient connectsFirst "session" "new"
     run.1 = .error Error.internalError ∧
      run.2.bridges.map (·.state.cx) = ["new", "old"] ∧ run.2.client.cx = "old" ∧
      ¬ SessionThread.sample.ReplacesWhole connectsFirst "session" "new") := by
  refine ⟨rfl, rfl, rfl, fun h => ?_⟩
  have hmoved := congrArg (List.map fun b => b.state.cx) h.1
  exact absurd hmoved (by decide)

end Sample

/-! ## The call from `await` to `await` -/

/-- The bridge of the interleavings is the one of a thread, with the calls that wait. -/
def Represents (b : AcpMcpBridge) (s : SessionBridge γ) : Prop :=
  b.inner = .running s.state.connectionId

/-- The steps of a call that runs alone: it connects, takes the lock on the connection, and
the old connection is closed. -/
def replaceConnectionLabels (n : CallId) (closed : Reply) :
    Except Error McpConnectionId → List Label
  | .error e => [.invoke n .replaceConnection, .resume n (.failed e)]
  | .ok newConnectionId =>
    [.invoke n .replaceConnection, .resume n (.connected newConnectionId), .resume n .ok,
      .resume n closed]

/-- What is sent over a closing connection comes back closed, or failed. -/
def Reply.closes : Reply → Bool
  | .ok | .failed _ => true
  | .connected _ => false

/-- **Refinement.** The steps of a call that runs alone move the bridge as
`replaceConnection` does, and return what it returns. -/
theorem replaceConnection_run (connects : Connects γ) (k : Nat) (cx : γ) {s : SessionBridge γ}
    {b : AcpMcpBridge} {n : CallId} {closed : Reply} (hb : Represents b s)
    (hfree : b.inFlight.lookup n = none) (hclosed : closed.closes = true) :
    ∃ b', exec AcpMcpBridge.step b
        (replaceConnectionLabels n closed (connects k cx s.acpId s.metadata)) = some b' ∧
      Represents b' (s.replaceConnection connects k cx).2 ∧
      b'.returned = b.returned ++ [(.replaceConnection, (s.replaceConnection connects k cx).1)] := by
  have hinner : b.inner = .running s.state.connectionId := hb
  have hinvoke : b.step (.invoke n .replaceConnection) = some (b.suspend n .replaceConnect) := by
    unfold AcpMcpBridge.step AcpMcpBridge.invoke
    dsimp only
    rw [hfree, hinner]
  have hresume : ∀ (c : AcpMcpBridge) (at' : Suspended) (reply : Reply),
      (c.suspend n at').step (.resume n reply) = (c.suspend n at').resume n at' reply := by
    intro c at' reply
    unfold AcpMcpBridge.step AcpMcpBridge.suspend
    dsimp only
    rw [AList.lookup_insert]
  unfold SessionBridge.replaceConnection
  cases hconnect : connects k cx s.acpId s.metadata with
  | error e =>
    refine ⟨(b.suspend n .replaceConnect).finish n .replaceConnection (.error e), ?_, hb, rfl⟩
    unfold replaceConnectionLabels
    rw [exec_cons_some hinvoke, exec_cons_some (hresume _ _ _), exec_nil]
  | ok id =>
    -- The bridge with the lock on its connection, and with the old connection closing.
    let locked := (b.suspend n .replaceConnect).connect id
    let moved := { locked.suspend n (.replaceLock id) with
      inner := .running id }.disconnect s.state.connectionId
    have hconnected : (b.suspend n .replaceConnect).step (.resume n (.connected id)) =
        some (locked.suspend n (.replaceLock id)) := hresume _ _ _
    have hmoved : (locked.suspend n (.replaceLock id)).step (.resume n .ok) =
        some (moved.suspend n .replaceDisconnect) := by
      rw [hresume]
      show (locked.suspend n (.replaceLock id)).replaceState n id = _
      unfold AcpMcpBridge.replaceState
      rw [show (locked.suspend n (.replaceLock id)).inner = .running s.state.connectionId from hinner]
    have hclosing : (moved.suspend n .replaceDisconnect).step (.resume n closed) =
        some ((moved.suspend n .replaceDisconnect).finish n .replaceConnection (.ok ())) := by
      rw [hresume]
      cases closed with
      | connected id => cases hclosed
      | ok | failed e => rfl
    have hrepresents : Represents ((moved.suspend n .replaceDisconnect).finish n .replaceConnection
        (.ok ())) ({ s with state := ⟨cx, id⟩ } : SessionBridge γ) := rfl
    refine ⟨_, ?_, hrepresents, rfl⟩
    unfold replaceConnectionLabels
    rw [exec_cons_some hinvoke, exec_cons_some hconnected, exec_cons_some hmoved,
      exec_cons_some hclosing, exec_nil]

end CodexAcp.Bridge
