import CodexAcp.Bridge.AcpMcpBridge

/-!
# Every connection is given back once

A connection the client opened for a bridge is held by the call that waits to use
it, or is the bridge's own, or was asked to close; and in an orderly run it is one
of these only (`Running.balance`, an equation between counts). From it:

> `connections_balanced_iff`: over every interleaving, no connection is asked to
> close twice, and once all calls returned and the bridge is over each was asked
> once, exactly when the run is orderly: a start that got a connection gets its
> listener too, and after a shutdown read the connection nobody replaces or reads
> it any more.

The step that is not orderly is at once the one that breaks the balance, so the two
conditions agree step by step.
-/

namespace CodexAcp.Bridge

open CodexAcp.Lib CodexAcp.Protocol

/-- The connection a call in flight holds. -/
def Suspended.holds : Suspended → Option McpConnectionId
  | startBind connectionId => some connectionId
  | replaceLock newConnectionId => some newConnectionId
  | _ => none

namespace AcpMcpBridge

/-! ## What is claimed, and on which runs -/

/-- No connection is asked to close twice; and when every call has returned and the
bridge is over, each connection was asked to close. -/
def Balanced (b : AcpMcpBridge) : Prop :=
  (∀ id, b.disconnects.count id ≤ 1) ∧
    (b.Quiet → b.Over → ∀ id ∈ b.connected, b.disconnects.count id = 1)

/-- A start that got a connection gets its listener, and a connection that a shutdown
read is neither replaced nor read again. -/
def Orderly (b : AcpMcpBridge) : Label → Prop
  | .invoke _ _ => True
  | .resume n reply =>
    match b.inFlight.lookup n, reply with
    | some (.startBind _), .failed _ => False
    | some (.replaceLock _), .ok => b.readByShutdown = false
    | some .shutdownLock, .ok => b.readByShutdown = false
    | _, _ => True

/-! ## Held connections, counted -/

/-- The connections held by calls in flight. -/
def held (b : AcpMcpBridge) : List McpConnectionId :=
  (Dict.values b.inFlight).filterMap Suspended.holds

section Held

variable {b : AcpMcpBridge} {n : CallId} {s : Suspended} (id : McpConnectionId)

theorem count_filterMap_cons (s : Suspended) (l : List Suspended) :
    ((s :: l).filterMap Suspended.holds).count id =
      s.holds.toList.count id + (l.filterMap Suspended.holds).count id := by
  rw [List.filterMap_cons]
  cases s.holds with
  | none => simp
  | some c => simp [List.count_cons, Nat.add_comm]

/-- A call that is made holds what it holds. -/
theorem count_held_invoke (at' : Suspended) (h : b.inFlight.lookup n = none) :
    (b.suspend n at').held.count id = b.held.count id + at'.holds.toList.count id := by
  unfold held suspend
  rw [Dict.values_insert h, count_filterMap_cons, Nat.add_comm]

theorem count_held_erase (h : b.inFlight.lookup n = some s) :
    ((Dict.values (b.inFlight.erase n)).filterMap Suspended.holds).count id +
      s.holds.toList.count id = b.held.count id := by
  have hperm := ((Dict.perm_values_erase h).filterMap Suspended.holds).count_eq id
  rw [count_filterMap_cons] at hperm
  unfold held
  omega

/-- A call that goes on holds something else. -/
theorem count_held_suspend (at' : Suspended) (h : b.inFlight.lookup n = some s) :
    (b.suspend n at').held.count id + s.holds.toList.count id =
      b.held.count id + at'.holds.toList.count id := by
  have herase := count_held_erase id h
  show ((Dict.values (b.inFlight.insert n at')).filterMap Suspended.holds).count id + _ = _
  rw [Dict.values_insert_of_some, count_filterMap_cons]
  omega

/-- A call that returns held nothing, or no longer holds it. -/
theorem count_held_finish (h : b.inFlight.lookup n = some s) (call : Call)
    (result : Except Error Unit) :
    (b.finish n call result).held.count id + s.holds.toList.count id = b.held.count id :=
  count_held_erase id h

theorem held_of_quiet (h : b.Quiet) : b.held = [] := by
  rw [List.eq_nil_iff_forall_not_mem]
  intro id hid
  obtain ⟨s, hs, _⟩ := List.mem_filterMap.mp hid
  obtain ⟨n, hn⟩ := Dict.mem_values.mp hs
  rw [h n] at hn
  cases hn

end Held

/-! ## The invariant -/

/-- A call that may be in flight beside a running bridge; one that waits for the
disconnect of a shutdown comes after the shutdown read the connection. -/
def FitsCall (readByShutdown : Bool) : Suspended → Prop
  | .startConnect | .startBind _ => False
  | .shutdownDisconnect => readByShutdown = true
  | _ => True

/-- A return that may lie behind a running bridge. -/
def FitsReturn (readByShutdown : Bool) : Call × Except Error Unit → Prop
  -- A bridge runs only if its start succeeded.
  | (.start, .error _) => False
  | (.shutdown, .ok ()) => readByShutdown = true
  | _ => True

/-- A bridge that runs on the connection `c`. -/
structure Running (b : AcpMcpBridge) (c : McpConnectionId) : Prop where
  inner : b.inner = .running c
  calls : ∀ n s, b.inFlight.lookup n = some s → FitsCall b.readByShutdown s
  returned : ∀ r ∈ b.returned, FitsReturn b.readByShutdown r
  once : b.connected.Nodup
  /-- Asked to close, the bridge's own, or held: one of these, but that the bridge's
  own was asked to close when a shutdown read it. -/
  balance : ∀ id, b.disconnects.count id + [c].count id + b.held.count id =
    b.connected.count id + if b.readByShutdown then [c].count id else 0
  readSent : b.readByShutdown = true → c ∈ b.disconnects

/-- Exactly one call is in flight. -/
def OnlyCall (b : AcpMcpBridge) (n : CallId) (s : Suspended) : Prop :=
  ∀ m, b.inFlight.lookup m = if m = n then some s else none

/-- The states of an orderly run. -/
inductive Accounted (b : AcpMcpBridge) : Prop where
  | absent (inner : b.inner = .absent) (quiet : b.Quiet) (connected : b.connected = [])
      (disconnects : b.disconnects = []) (returned : b.returned = [])
      (readByShutdown : b.readByShutdown = false)
  | starting {n : CallId} {s : Suspended} (inner : b.inner = .starting) (call : OnlyCall b n s)
      (start : s = .startConnect ∨ ∃ c, s = .startBind c)
      (connected : b.connected = s.holds.toList) (disconnects : b.disconnects = [])
      (returned : b.returned = []) (readByShutdown : b.readByShutdown = false)
  | failed (inner : b.inner = .failed) (quiet : b.Quiet) (connected : b.connected = [])
      (disconnects : b.disconnects = [])
  | running {c : McpConnectionId} (running : Running b c)

theorem FitsCall.read {readByShutdown : Bool} {s : Suspended} (h : FitsCall readByShutdown s) :
    FitsCall true s := by
  cases s <;> first | exact h | rfl

theorem FitsReturn.read {readByShutdown : Bool} {r : Call × Except Error Unit}
    (h : FitsReturn readByShutdown r) : FitsReturn true r := by
  obtain ⟨call, result⟩ := r
  cases call <;> cases result <;> first | exact h | rfl

/-- **Running bridges are balanced.** -/
theorem Running.balanced {b : AcpMcpBridge} {c : McpConnectionId} (h : Running b c) :
    b.Balanced := by
  have honce : ∀ id, b.connected.count id ≤ 1 := List.nodup_iff_count_le_one.mp h.once
  refine ⟨fun id => ?_, fun hquiet hover id hid => ?_⟩
  · have hbalance := h.balance id
    have := honce id
    split at hbalance <;> omega
  -- Beside a running bridge the start did not fail, so a shutdown completed, and read the
  -- connection.
  · have hread : b.readByShutdown = true := by
      rcases hover with hshutdown | ⟨error, hstart⟩
      · exact h.returned _ hshutdown
      · exact False.elim (h.returned _ hstart)
    have hbalance := h.balance id
    rw [held_of_quiet hquiet, if_pos hread, List.count_nil] at hbalance
    have := List.count_pos_iff.mpr hid
    have := honce id
    omega

theorem Accounted.balanced {b : AcpMcpBridge} (h : Accounted b) : b.Balanced := by
  cases h with
  | running h => exact h.balanced
  | absent _ _ connected disconnects _ _ =>
    exact ⟨by simp [disconnects], fun _ _ id hid => by rw [connected] at hid; cases hid⟩
  | failed _ _ connected disconnects =>
    exact ⟨by simp [disconnects], fun _ _ id hid => by rw [connected] at hid; cases hid⟩
  | @starting n s _ call _ _ disconnects _ _ =>
    refine ⟨by simp [disconnects], fun hquiet _ => ?_⟩
    have hnone := hquiet n
    rw [call n, if_pos rfl] at hnone
    cases hnone

/-! ## What a step does beside a running bridge -/

theorem step_invoke {b b' : AcpMcpBridge} {n : CallId} {call : Call}
    (h : b.step (.invoke n call) = some b') :
    b.inFlight.lookup n = none ∧ b.invoke n call = some b' := by
  unfold AcpMcpBridge.step at h
  dsimp only at h
  split at h
  next => cases h
  next hfree => exact ⟨hfree, h⟩

theorem step_resume {b b' : AcpMcpBridge} {n : CallId} {reply : Reply}
    (h : b.step (.resume n reply) = some b') :
    ∃ at', b.inFlight.lookup n = some at' ∧ b.resume n at' reply = some b' := by
  unfold AcpMcpBridge.step at h
  dsimp only at h
  split at h
  next at' hat => exact ⟨at', hat, h⟩
  next => cases h

section Steps

variable {b b' : AcpMcpBridge} {c : McpConnectionId} {n : CallId} {s at' : Suspended}

/-- The calls in flight after one of them went on. -/
theorem calls_suspend {read : Bool} (hcalls : ∀ m s, b.inFlight.lookup m = some s → FitsCall read s)
    (hat : FitsCall read at') :
    ∀ m s, (b.suspend n at').inFlight.lookup m = some s → FitsCall read s := by
  intro m s hs
  rcases Dict.lookup_insert_eq_some.mp hs with ⟨_, rfl⟩ | ⟨_, hold⟩
  · exact hat
  · exact hcalls m s hold

/-- The calls in flight after one of them returned. -/
theorem calls_finish {read : Bool} (hcalls : ∀ m s, b.inFlight.lookup m = some s → FitsCall read s)
    (call : Call) (result : Except Error Unit) :
    ∀ m s, (b.finish n call result).inFlight.lookup m = some s → FitsCall read s := by
  intro m s hs
  exact hcalls m s (Dict.lookup_erase_eq_some.mp hs).2

theorem returned_finish {read : Bool} (hreturned : ∀ r ∈ b.returned, FitsReturn read r)
    {call : Call} {result : Except Error Unit} (h : FitsReturn read (call, result)) :
    ∀ r ∈ (b.finish n call result).returned, FitsReturn read r := by
  intro r hr
  rcases List.mem_append.mp hr with hold | hnew
  · exact hreturned r hold
  · rw [List.mem_singleton.mp hnew]
    exact h

/-- A call is made that holds nothing. -/
theorem Running.invoked (h : Running b c) (hfree : b.inFlight.lookup n = none)
    (hholds : at'.holds = none) (hat : FitsCall b.readByShutdown at') :
    Running (b.suspend n at') c where
  inner := h.inner
  calls := calls_suspend h.calls hat
  returned := h.returned
  once := h.once
  balance id := by
    have hheld := count_held_invoke id at' hfree
    rw [hholds] at hheld
    rw [hheld]
    exact h.balance id
  readSent := h.readSent

/-- A call that holds nothing waits for something else, and holds nothing. -/
theorem Running.suspended (h : Running b c) (hs : b.inFlight.lookup n = some s)
    (hholds : s.holds = none) (hholds' : at'.holds = none) (hat : FitsCall b.readByShutdown at') :
    Running (b.suspend n at') c where
  inner := h.inner
  calls := calls_suspend h.calls hat
  returned := h.returned
  once := h.once
  balance id := by
    have hheld := count_held_suspend id at' hs
    rw [hholds, hholds'] at hheld
    rw [Nat.add_right_cancel hheld]
    exact h.balance id
  readSent := h.readSent

/-- A call that holds nothing returns. -/
theorem Running.finished (h : Running b c) (hs : b.inFlight.lookup n = some s)
    (hholds : s.holds = none) {call : Call} {result : Except Error Unit}
    (hreturn : FitsReturn b.readByShutdown (call, result)) :
    Running (b.finish n call result) c where
  inner := h.inner
  calls := calls_finish h.calls call result
  returned := returned_finish h.returned hreturn
  once := h.once
  balance id := by
    have hheld := count_held_finish id hs call result
    rw [hholds] at hheld
    rw [show (b.finish n call result).held.count id = b.held.count id from hheld]
    exact h.balance id
  readSent := h.readSent

/-- The connection a replacement waited for is there. -/
theorem Running.connected (h : Running b c) (hs : b.inFlight.lookup n = some .replaceConnect)
    {id : McpConnectionId} (hfresh : id ∉ b.connected) :
    Running ((b.connect id).suspend n (.replaceLock id)) c where
  inner := h.inner
  calls := calls_suspend (b := b.connect id) h.calls trivial
  returned := h.returned
  once := by
    show (b.connected ++ [id]).Nodup
    rw [List.nodup_append]
    refine ⟨h.once, List.nodup_singleton id, fun a ha a' ha' => ?_⟩
    rw [List.mem_singleton.mp ha']
    rintro rfl
    exact hfresh ha
  balance id' := by
    have hbalance := h.balance id'
    have hheld : ((b.connect id).suspend n (.replaceLock id)).held.count id' + 0 =
        b.held.count id' + [id].count id' :=
      count_held_suspend (b := b.connect id) id' (.replaceLock id) hs
    -- The new connection is held by the call that asked for it.
    show b.disconnects.count id' + _ + _ = (b.connected ++ [id]).count id' + _
    rw [List.count_append]
    show _ = b.connected.count id' + _ + if b.readByShutdown then _ else _
    omega
  readSent := h.readSent

/-- The connection is replaced, and no shutdown had read it. -/
theorem Running.replaced (h : Running b c) {id : McpConnectionId}
    (hs : b.inFlight.lookup n = some (.replaceLock id)) (hread : b.readByShutdown = false) :
    Running (({ b with inner := .running id }.disconnect c).suspend n .replaceDisconnect) id where
  inner := rfl
  calls := calls_suspend (b := { b with inner := .running id }.disconnect c) h.calls
    (show FitsCall _ .replaceDisconnect from trivial)
  returned := h.returned
  once := h.once
  balance id' := by
    have hbalance := h.balance id'
    have hheld : (({ b with inner := .running id }.disconnect c).suspend n
        .replaceDisconnect).held.count id' + [id].count id' = b.held.count id' + 0 :=
      count_held_suspend (b := { b with inner := .running id }.disconnect c) id'
        .replaceDisconnect hs
    have hnot : ¬ b.readByShutdown = true := by rw [hread]; exact Bool.false_ne_true
    -- The call held the new connection, which is the bridge's own now; the old one is sent.
    rw [if_neg hnot] at hbalance
    show (b.disconnects ++ [c]).count id' + _ + _ =
      b.connected.count id' + if b.readByShutdown then _ else _
    rw [List.count_append, if_neg hnot]
    omega
  readSent hnow := by
    rw [show b.readByShutdown = true from hnow] at hread
    cases hread

/-- A shutdown reads the connection, and none had read it. -/
theorem Running.read (h : Running b c) (hs : b.inFlight.lookup n = some .shutdownLock)
    (hread : b.readByShutdown = false) :
    Running (({ b with readByShutdown := true }.disconnect c).suspend n .shutdownDisconnect)
      c where
  inner := h.inner
  calls := by
    have hcalls : ∀ m s, b.inFlight.lookup m = some s → FitsCall true s :=
      fun m s hm => (h.calls m s hm).read
    exact calls_suspend (b := { b with readByShutdown := true }.disconnect c) hcalls
      (show FitsCall true .shutdownDisconnect from rfl)
  returned r hr := (h.returned r hr).read
  once := h.once
  balance id' := by
    have hbalance := h.balance id'
    have hheld : (({ b with readByShutdown := true }.disconnect c).suspend n
        .shutdownDisconnect).held.count id' + 0 = b.held.count id' + 0 :=
      count_held_suspend (b := { b with readByShutdown := true }.disconnect c) id'
        .shutdownDisconnect hs
    -- The bridge's own connection is sent and stays, which the last term of the balance allows
    -- once.
    rw [if_neg (by rw [hread]; exact Bool.false_ne_true)] at hbalance
    show (b.disconnects ++ [c]).count id' + _ + _ = b.connected.count id' + [c].count id'
    rw [List.count_append]
    omega
  readSent _ := List.mem_append_right _ (List.mem_singleton.mpr rfl)

/-- A connection that a shutdown read is asked to close again. -/
theorem Running.not_balanced (h : Running b c) (hread : b.readByShutdown = true)
    (hsent : b'.disconnects = b.disconnects ++ [c]) : ¬ b'.Balanced := by
  intro hbalanced
  have hone := hbalanced.1 c
  have hpos := List.count_pos_iff.mpr (h.readSent hread)
  rw [hsent, List.count_append, List.count_singleton_self] at hone
  omega

/-- **One step beside a running bridge**: it goes on running and balanced when the
step is orderly, and is out of balance when it is not. -/
theorem Running.step (h : Running b c) {l : Label} (hfresh : b.GivesFreshId l)
    (hstep : b.step l = some b') :
    (b.Orderly l ∧ ∃ c', Running b' c') ∨ (¬ b.Orderly l ∧ ¬ b'.Balanced) := by
  cases l with
  | invoke n call =>
    refine .inl ⟨trivial, c, ?_⟩
    obtain ⟨hfree, hstep⟩ := step_invoke hstep
    cases call with
    | start =>
      unfold invoke at hstep
      rw [h.inner] at hstep
      cases hstep
    | replaceConnection =>
      unfold invoke at hstep
      rw [h.inner] at hstep
      cases hstep
      exact h.invoked hfree rfl trivial
    | shutdown =>
      -- the first shutdown takes the server's task and waits for it
      have htaken : Running { b with task := false } c :=
        ⟨h.inner, h.calls, h.returned, h.once, h.balance, h.readSent⟩
      unfold invoke at hstep
      dsimp only at hstep
      split at hstep
      next =>
        split at hstep
        next => cases hstep; exact htaken.invoked hfree rfl trivial
        next => cases hstep; exact h.invoked hfree rfl trivial
      next => cases hstep
  | resume n reply =>
    obtain ⟨at', hs, hstep⟩ := step_resume hstep
    have hfits := h.calls n at' hs
    unfold Orderly
    dsimp only
    rw [hs]
    cases at' with
    -- The start is over once the bridge runs.
    | startConnect => exact False.elim hfits
    | startBind id => exact False.elim hfits
    | replaceConnect =>
      cases reply with
      | ok => cases hstep
      | connected id =>
        cases hstep
        exact .inl ⟨trivial, c, h.connected hs hfresh⟩
      | failed error =>
        cases hstep
        exact .inl ⟨trivial, c, h.finished hs rfl trivial⟩
    | replaceLock id =>
      cases reply with
      | connected id' => cases hstep
      | failed error => cases hstep
      | ok =>
        unfold resume replaceState at hstep
        dsimp only at hstep
        split at hstep
        next old hold =>
          rw [h.inner] at hold
          cases hold
          cases hstep
          by_cases hread : b.readByShutdown = false
          · exact .inl ⟨hread, id, h.replaced hs hread⟩
          · exact .inr ⟨hread, h.not_balanced (Bool.of_not_eq_false hread) rfl⟩
        next => cases hstep
    | replaceDisconnect =>
      cases reply with
      | connected id => cases hstep
      | ok => cases hstep; exact .inl ⟨trivial, c, h.finished hs rfl trivial⟩
      | failed error => cases hstep; exact .inl ⟨trivial, c, h.finished hs rfl trivial⟩
    | shutdownServer =>
      cases reply with
      | connected id => cases hstep
      | ok => cases hstep; exact .inl ⟨trivial, c, h.suspended hs rfl rfl trivial⟩
      | failed error => cases hstep; exact .inl ⟨trivial, c, h.suspended hs rfl rfl trivial⟩
    | shutdownLock =>
      cases reply with
      | connected id => cases hstep
      | failed error => cases hstep
      | ok =>
        unfold resume readState at hstep
        dsimp only at hstep
        split at hstep
        next current hcurrent =>
          rw [h.inner] at hcurrent
          cases hcurrent
          cases hstep
          by_cases hread : b.readByShutdown = false
          · exact .inl ⟨hread, _, h.read hs hread⟩
          · exact .inr ⟨hread, h.not_balanced (Bool.of_not_eq_false hread) rfl⟩
        next => cases hstep
    | shutdownDisconnect =>
      cases reply with
      | connected id => cases hstep
      | ok => cases hstep; exact .inl ⟨trivial, c, h.finished hs rfl hfits⟩
      | failed error => cases hstep; exact .inl ⟨trivial, c, h.finished hs rfl hfits⟩

end Steps

/-! ## Starting -/

section Starting

variable {b b' : AcpMcpBridge} {n m : CallId} {s at' : Suspended}

theorem OnlyCall.suspend (h : OnlyCall b n s) : OnlyCall (b.suspend n at') n at' := by
  intro m
  show AList.lookup m (b.inFlight.insert n at') = _
  by_cases hm : m = n
  · rw [if_pos hm, hm, AList.lookup_insert]
  · rw [if_neg hm, AList.lookup_insert_ne hm, h m, if_neg hm]

theorem OnlyCall.finish (h : OnlyCall b n s) (call : Call) (result : Except Error Unit) :
    (b.finish n call result).Quiet := by
  intro m
  show AList.lookup m (b.inFlight.erase n) = none
  by_cases hm : m = n
  · rw [hm, AList.lookup_erase]
  · rw [AList.lookup_erase_ne hm, h m, if_neg hm]

theorem OnlyCall.eq (h : OnlyCall b n s) (hm : b.inFlight.lookup m = some at') :
    m = n ∧ at' = s := by
  rw [h m] at hm
  split at hm
  next heq => cases hm; exact ⟨heq, rfl⟩
  next => cases hm

/-- Only a start may be called where no bridge runs. -/
theorem invoke_absent {call : Call} (hrunning : ∀ c, b.inner ≠ .running c)
    (h : b.invoke n call = some b') :
    b.inner = .absent ∧ b' = { b with inner := .starting }.suspend n .startConnect := by
  unfold invoke at h
  cases call with
  | start =>
    dsimp only at h
    split at h
    next hinner => cases h; exact ⟨hinner, rfl⟩
    next => cases h
  | replaceConnection | shutdown =>
    dsimp only at h
    split at h
    next c hinner => exact absurd hinner (hrunning c)
    next => cases h

/-- A start that has its listener leaves a bridge that runs. -/
theorem Running.started {c : McpConnectionId} (call : OnlyCall b n (.startBind c))
    (connected : b.connected = [c]) (disconnects : b.disconnects = []) (returned : b.returned = [])
    (readByShutdown : b.readByShutdown = false) :
    Running ({ b with inner := .running c, task := true }.finish n .start (.ok ())) c := by
  have hquiet := OnlyCall.finish (b := { b with inner := .running c, task := true })
    call .start (.ok ())
  refine ⟨rfl, fun m s hs => ?_, fun r hr => ?_, ?_, fun id => ?_, fun hread => ?_⟩
  · rw [hquiet m] at hs
    cases hs
  · rw [show r = (.start, .ok ()) by
      rcases List.mem_append.mp hr with hold | hnew
      · rw [show b.returned = [] from returned] at hold
        cases hold
      · exact List.mem_singleton.mp hnew]
    trivial
  · rw [show b.connected = [c] from connected]
    exact List.nodup_singleton c
  · rw [held_of_quiet hquiet]
    show b.disconnects.count id + _ + _ = b.connected.count id + if b.readByShutdown then _ else _
    rw [connected, disconnects, readByShutdown]
    simp
  · rw [show b.readByShutdown = true from hread] at readByShutdown
    cases readByShutdown

end Starting

/-- **One step**: it keeps the account when it is orderly, and breaks the balance when
it is not. -/
theorem Accounted.step {b b' : AcpMcpBridge} (h : Accounted b) {l : Label}
    (hfresh : b.GivesFreshId l) (hstep : b.step l = some b') :
    (b.Orderly l ∧ Accounted b') ∨ (¬ b.Orderly l ∧ ¬ b'.Balanced) := by
  cases h with
  | running h =>
    rcases h.step hfresh hstep with ⟨horderly, c', hrunning⟩ | hbroken
    · exact .inl ⟨horderly, .running hrunning⟩
    · exact .inr hbroken
  | absent inner quiet connected disconnects returned readByShutdown =>
    cases l with
    | resume n reply =>
      obtain ⟨at', hat, _⟩ := step_resume hstep
      rw [quiet n] at hat
      cases hat
    | invoke n call =>
      obtain ⟨_, hinvoke⟩ := step_invoke hstep
      obtain ⟨_, rfl⟩ := invoke_absent (by rw [inner]; exact fun c => nofun) hinvoke
      refine .inl ⟨trivial, .starting (n := n) (s := .startConnect) rfl (fun m => ?_) (.inl rfl)
        connected disconnects returned readByShutdown⟩
      show AList.lookup m (b.inFlight.insert n .startConnect) = _
      by_cases hm : m = n
      · rw [if_pos hm, hm, AList.lookup_insert]
      · rw [if_neg hm, AList.lookup_insert_ne hm, quiet m]
  | failed inner quiet connected disconnects =>
    cases l with
    | resume n reply =>
      obtain ⟨at', hat, _⟩ := step_resume hstep
      rw [quiet n] at hat
      cases hat
    | invoke n call =>
      obtain ⟨_, hinvoke⟩ := step_invoke hstep
      obtain ⟨habsent, _⟩ := invoke_absent (by rw [inner]; exact fun c => nofun) hinvoke
      rw [inner] at habsent
      cases habsent
  | @starting n s inner call start connected disconnects returned readByShutdown =>
    cases l with
    | invoke m call' =>
      obtain ⟨_, hinvoke⟩ := step_invoke hstep
      obtain ⟨habsent, _⟩ := invoke_absent (by rw [inner]; exact fun c => nofun) hinvoke
      rw [inner] at habsent
      cases habsent
    | resume m reply =>
      obtain ⟨at', hat, hresume⟩ := step_resume hstep
      obtain ⟨rfl, rfl⟩ := call.eq hat
      unfold Orderly
      dsimp only
      rw [hat]
      rcases start with rfl | ⟨c, rfl⟩
      · cases reply with
        | ok => cases hresume
        | connected id =>
          cases hresume
          refine .inl ⟨trivial, .starting inner (OnlyCall.suspend (b := b.connect id) call)
            (.inr ⟨id, rfl⟩) ?_ disconnects returned readByShutdown⟩
          show b.connected ++ [id] = [id]
          rw [connected]
          rfl
        | failed error =>
          cases hresume
          exact .inl ⟨trivial, .failed rfl
            (OnlyCall.finish (b := { b with inner := .failed }) call .start (.error error))
            connected disconnects⟩
      · cases reply with
        | connected id => cases hresume
        | ok =>
          cases hresume
          exact .inl ⟨trivial, .running
            (Running.started call connected disconnects returned readByShutdown)⟩
        | failed error =>
          -- the connection is there, and nobody knows of it any more
          cases hresume
          refine .inr ⟨fun hfalse => hfalse, fun hbalanced => ?_⟩
          have hone := hbalanced.2
            (OnlyCall.finish (b := { b with inner := .failed }) call .start (.error error))
            (.inr ⟨error, List.mem_append_right _ (List.mem_singleton.mpr rfl)⟩) c
            (by show c ∈ b.connected; rw [connected]; exact List.mem_singleton.mpr rfl)
          rw [show b.disconnects = [] from disconnects] at hone
          cases hone

theorem accounted_empty : Accounted {} :=
  .absent rfl (fun _ => rfl) rfl rfl rfl rfl

/-- **Connections.** Over every interleaving of the calls on a bridge, its connections
are balanced in every state exactly when the run is orderly. -/
theorem connections_balanced_iff (labels : List Label)
    (hfresh : Along step (fun b l _ => GivesFreshId b l) {} labels) :
    Along step (fun _ _ b' => Balanced b') {} labels ↔
      Along step (fun b l _ => Orderly b l) {} labels := by
  refine (along_iff_of_invariant (I := Accounted)
    (fun b l b' h hfresh hstep => ?_) labels accounted_empty hfresh).symm
  rcases h.step hfresh hstep with ⟨horderly, h'⟩ | ⟨hdisorderly, hbroken⟩
  · exact ⟨⟨fun _ => h'.balanced, fun _ => horderly⟩, fun _ => h'⟩
  · exact ⟨⟨fun h => absurd h hdisorderly, fun h => absurd h hbroken⟩,
      fun h => absurd h hdisorderly⟩

/-- A bridge is started and shut down. -/
theorem connections_balanced_startShutdown :
    Along step (fun _ _ b' => Balanced b') {}
      [.invoke 0 .start, .resume 0 (.connected "connection"), .resume 0 .ok,
        .invoke 1 .shutdown, .resume 1 .ok, .resume 1 .ok, .resume 1 .ok] := by
  refine (connections_balanced_iff _ ?_).mpr ?_
  · exact ⟨trivial, List.not_mem_nil, trivial, trivial, trivial, trivial, trivial, trivial⟩
  · exact ⟨trivial, trivial, trivial, trivial, trivial, rfl, trivial, trivial⟩

/-- The client opens a connection, and the listener cannot be bound. -/
theorem start_leaks :
    ¬ ∀ labels, Along step (fun b l _ => GivesFreshId b l) {} labels →
      Along step (fun _ _ b' => Balanced b') {} labels := by
  intro h
  obtain ⟨_, _, hbalanced, _⟩ := h
    [.invoke 0 .start, .resume 0 (.connected "connection"), .resume 0 (.failed .internalError)]
    ⟨trivial, List.not_mem_nil, trivial, trivial⟩
  have hone := hbalanced.2 (fun _ => rfl) (.inr ⟨.internalError, List.mem_singleton.mpr rfl⟩)
    "connection" (List.mem_singleton.mpr rfl)
  cases hone

end AcpMcpBridge

end CodexAcp.Bridge
