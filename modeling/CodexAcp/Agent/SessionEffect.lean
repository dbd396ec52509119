import CodexAcp.Agent.Sessions
import Mathlib.Logic.Function.Basic

/-!
# What one step does to the sessions

Most steps of a handler touch neither the map nor a thread. The ones that do
are few: a handler creates a thread, publishes it in the map or discards it; a
close looks its thread up, shuts it down and then removes what the map holds
under the id; a delete takes its thread out of the map first and shuts it down
after. `SessionEffect` lists them, in terms of three things only: the map, the
threads, and what each handler holds of a thread across its `await`.

> `resume_cases`: every way a handler goes on from its `await`.
> `session_effect`: every step of the agent is one of these.
-/

namespace CodexAcp.Agent

open CodexAcp.Lib CodexAcp.Protocol

/-! ## What a handler holds -/

/-- What a handler in flight is about to do with a thread. -/
inductive Role where
  /-- It created the thread, and will publish or discard it. -/
  | opened
  /-- It found the thread in the map, and will shut it down. -/
  | stopping
  /-- It shut the thread down, and will remove its session from the map. -/
  | stopped
  /-- It took the thread out of the map, and will shut it down. -/
  | taken
  deriving DecidableEq

/-- A thread a handler acts on, and the session it acts for. -/
structure Held where
  role : Role
  sessionId : SessionId
  thread : ThreadRef
  deriving DecidableEq

/-- The thread a suspended handler still has to act on. Load and resume of a
live session only talk to theirs. -/
def Suspended.held : Suspended → Option Held
  | .replayHistory _ id thread => some ⟨.opened, id, thread⟩
  | .threadLoad _ id thread => some ⟨.opened, id, thread⟩
  | .discard id thread _ => some ⟨.opened, id, thread⟩
  | .closeShutdown id thread => some ⟨.stopping, id, thread⟩
  | .closeRemoveThread id thread => some ⟨.stopped, id, thread⟩
  | .deleteShutdown id thread => some ⟨.taken, id, thread⟩
  | _ => none

/-- The session id of a thread that exists or is about to. -/
def Suspended.located : Suspended → Option SessionId
  | .rolloutHistory id => some id
  | .sessionConfig (.loadSession id) => some id
  | .sessionConfig (.resumeSession id) => some id
  | .startThread (.loadSession id) => some id
  | .startThread (.resumeSession id) => some id
  | .replayHistory _ id _ => some id
  | .threadLoad _ id _ => some id
  | .closeShutdown id _ => some id
  | _ => none

namespace CodexAgent

/-- What the handler of a request holds. -/
def held (a : CodexAgent) (n : RequestId) : Option Held := (a.inFlight.lookup n).bind Suspended.held

/-- The thread was created and not shut down. -/
def isRunning (a : CodexAgent) (thread : ThreadRef) : Bool :=
  ((a.threads.lookup thread).map (·.running)).getD false

/-- The map holds under the id a running thread other than the one that is known. -/
def holdsAnother (a : CodexAgent) (id : SessionId) (known : Option ThreadRef) : Bool :=
  match a.sessions.lookup id with
  | none => false
  | some thread => decide (known ≠ some thread) && a.isRunning thread

/-- No running thread leaves the map: an insertion, a close's removal and a
delete's each find under their id no running thread other than the one the
handler shut down itself (a close only: an insertion displaces what it finds,
and a delete takes its thread out before it shuts it down). -/
def checkHolds (store : ThreadStore) (a : CodexAgent) : Label → Bool
  | .receive _ (.deleteSession id) =>
    !((store.fromString id).isOk && a.holdsAnother id none)
  | .resume n .ok =>
    match a.inFlight.lookup n with
    | some (.threadLoad _ id _) => !a.holdsAnother id none
    | some (.closeRemoveThread id thread) => !a.holdsAnother id (some thread)
    | _ => true
  | _ => true

section Held

variable {a : CodexAgent} {n : RequestId} {p : Suspended}

theorem held_suspend (q : Suspended) :
    (a.suspend n q).held = Function.update a.held n q.held := by
  funext m
  unfold held suspend
  by_cases h : m = n
  · subst h
    rw [AList.lookup_insert, Function.update_self]
    rfl
  · rw [AList.lookup_insert_ne h, Function.update_of_ne h]

theorem held_answer (result : SessionResult) :
    (a.answer n result).held = Function.update a.held n none := by
  funext m
  unfold held answer
  by_cases h : m = n
  · subst h
    rw [AList.lookup_erase, Function.update_self]
    rfl
  · rw [AList.lookup_erase_ne h, Function.update_of_ne h]

theorem held_of_lookup (hp : a.inFlight.lookup n = some p) : a.held n = p.held := by
  unfold held
  rw [hp]
  rfl

end Held

end CodexAgent

/-! ## The effects -/

/-- What a step does to the map, the threads and what the handlers hold. -/
inductive SessionEffect (store : ThreadStore) (a : CodexAgent) (l : Label) (a' : CodexAgent) :
    Prop where
  /-- Nothing. -/
  | keeps (hcheck : a.checkHolds store l = true) (hsessions : a'.sessions = a.sessions)
      (hthreads : a'.threads = a.threads) (hheld : a'.held = a.held)
  /-- Codex hands out a thread, and the handler creates a session thread of it. -/
  | creates (n : RequestId) (id : SessionId) (thread : ThreadRef)
      (hcheck : a.checkHolds store l = true) (hn : a.held n = none)
      (hfresh : a.threads.lookup thread = none) (hsessions : a'.sessions = a.sessions)
      (hthreads : a'.threads = a.threads.insert thread ⟨id, true⟩)
      (hheld : a'.held = Function.update a.held n (some ⟨.opened, id, thread⟩))
  /-- The handler inserts its thread into the map, over whatever is there. -/
  | publishes (n : RequestId) (id : SessionId) (thread : ThreadRef)
      (hcheck : a.checkHolds store l = !a.holdsAnother id none)
      (hn : a.held n = some ⟨.opened, id, thread⟩)
      (hsessions : a'.sessions = a.sessions.insert id thread) (hthreads : a'.threads = a.threads)
      (hheld : a'.held = Function.update a.held n none)
  /-- The handler shuts its thread down; a close goes on only under a thread id. -/
  | stops (n : RequestId) (role : Role) (id : SessionId) (thread : ThreadRef) (next : Option Held)
      (hcheck : a.checkHolds store l = true) (hn : a.held n = some ⟨role, id, thread⟩)
      (hnext : (next = none ∧ (role = .opened ∨ role = .taken)) ∨
        (role = .stopping ∧ next = some ⟨.stopped, id, thread⟩) ∨
        (role = .stopping ∧ (store.fromString id).isOk = false))
      (hsessions : a'.sessions = a.sessions)
      (hthreads : a'.threads = (a.shutdown thread).threads)
      (hheld : a'.held = Function.update a.held n next)
  /-- A close finds its thread in the map. -/
  | finds (n : RequestId) (id : SessionId) (thread : ThreadRef)
      (hcheck : a.checkHolds store l = true) (hn : a.held n = none)
      (hid : a.sessions.lookup id = some thread) (hsessions : a'.sessions = a.sessions)
      (hthreads : a'.threads = a.threads)
      (hheld : a'.held = Function.update a.held n (some ⟨.stopping, id, thread⟩))
  /-- A close removes whatever the map holds under its id. -/
  | removes (n : RequestId) (id : SessionId) (thread : ThreadRef)
      (hcheck : a.checkHolds store l = !a.holdsAnother id (some thread))
      (hn : a.held n = some ⟨.stopped, id, thread⟩)
      (hsessions : a'.sessions = a.sessions.erase id) (hthreads : a'.threads = a.threads)
      (hheld : a'.held = Function.update a.held n none)
  /-- A delete takes its thread out of the map. -/
  | takes (n : RequestId) (id : SessionId) (thread : ThreadRef)
      (hcheck : a.checkHolds store l = !a.holdsAnother id none) (hn : a.held n = none)
      (hid : a.sessions.lookup id = some thread) (hsessions : a'.sessions = a.sessions.erase id)
      (hthreads : a'.threads = a.threads)
      (hheld : a'.held = Function.update a.held n (some ⟨.taken, id, thread⟩))

/-! ## Going on from an `await` -/

/-- What a handler does from the `await` it stands at to the next one. -/
inductive Resumed (store : ThreadStore) (a : CodexAgent) (n : RequestId) :
    Suspended → Reply → CodexAgent → Prop where
  /-- It waits again, and holds what it held. -/
  | waits {p q : Suspended} {reply : Reply} (hcheck : a.checkHolds store (.resume n reply) = true)
      (hheld : q.held = p.held) (hlocated : q.located = none ∨ q.located = p.located) :
      Resumed store a n p reply (a.suspend n q)
  /-- It answers, and held nothing. -/
  | answers {p : Suspended} {reply : Reply} {result : SessionResult}
      (hcheck : a.checkHolds store (.resume n reply) = true) (hheld : p.held = none) :
      Resumed store a n p reply (a.answer n result)
  | authorized {request : Opening} (hcheck : a.checkHolds store (.resume n .ok) = true) :
      Resumed store a n (.checkAuth request) .ok (a.authorized store n request)
  | rolloutFound {request : Opening} :
      Resumed store a n (.threadPath request) (.found true) (a.rolloutFound n request)
  | threadStarted {request : Opening} {threadId : ThreadId} {thread : ThreadRef}
      (hfresh : a.threads.lookup thread = none) :
      Resumed store a n (.startThread request) (.started threadId thread)
        (a.threadStarted n thread (request.sessionId store threadId) request)
  | inserts {request : Opening} {id : SessionId} {thread : ThreadRef}
      (hcheck : a.checkHolds store (.resume n .ok) = !a.holdsAnother id none) :
      Resumed store a n (.threadLoad request id thread) .ok
        ((a.insertSessionThread id thread).answer n (.ok (request.opened id)))
  | discards {id : SessionId} {thread : ThreadRef} {error : Error}
      (hcheck : a.checkHolds store (.resume n .ok) = true) :
      Resumed store a n (.discard id thread error) .ok
        ((a.shutdown thread).answer n (.error error))
  /-- A close under an id that is no thread id. -/
  | closeFails {id : SessionId} {thread : ThreadRef} {text : String}
      (hcheck : a.checkHolds store (.resume n .ok) = true) (hid : store.fromString id = .error text) :
      Resumed store a n (.closeShutdown id thread) .ok
        ((a.shutdown thread).answer n (.error (Error.internalError.withData text)))
  | closeStops {id : SessionId} {thread : ThreadRef}
      (hcheck : a.checkHolds store (.resume n .ok) = true) :
      Resumed store a n (.closeShutdown id thread) .ok
        ((a.shutdown thread).suspend n (.closeRemoveThread id thread))
  | closeRemoves {id : SessionId} {thread : ThreadRef}
      (hcheck : a.checkHolds store (.resume n .ok) = !a.holdsAnother id (some thread)) :
      Resumed store a n (.closeRemoveThread id thread) .ok
        ((a.removeSession id).answer n (.ok none))
  | deleteStops {id : SessionId} {thread : ThreadRef}
      (hcheck : a.checkHolds store (.resume n .ok) = true) :
      Resumed store a n (.deleteShutdown id thread) .ok
        ((a.shutdown thread).suspend n (.deleteRemoveThread id))
  /-- A delete past its file, deleted now or not there. -/
  | fileDeleted {p : Suspended} {reply : Reply} {deleted : Bool}
      (hcheck : a.checkHolds store (.resume n reply) = true) (hheld : p.held = none) :
      Resumed store a n p reply (a.fileDeleted store n deleted)
  | finishDelete {deleted deleted' : Bool} {count : Nat} :
      Resumed store a n (.deleteRows deleted) (.rows count) (a.finishDelete n deleted')

section Effect

variable {store : ThreadStore} {a a' : CodexAgent} {l : Label} {n : RequestId} {p : Suspended}

/-- The check of a handler that goes on, by the `await` it stands at. -/
theorem CodexAgent.checkHolds_resume (store : ThreadStore) (reply : Reply) :
    a.inFlight.lookup n = some p →
    a.checkHolds store (.resume n reply) =
      match reply, p with
      | .ok, .threadLoad _ id _ => !a.holdsAnother id none
      | .ok, .closeRemoveThread id thread => !a.holdsAnother id (some thread)
      | _, _ => true := by
  intro hp
  unfold CodexAgent.checkHolds
  cases reply with
  | ok => dsimp only; rw [hp]; cases p <;> rfl
  | refused | failed | found | started | rows => rfl

/-- **Every way a handler goes on** from its `await`. -/
theorem resume_cases {reply : Reply} (hp : a.inFlight.lookup n = some p)
    (h : a.resume store n p reply = some a') : Resumed store a n p reply a' := by
  have hcheck := CodexAgent.checkHolds_resume store reply hp
  cases p with
  | checkAuth request =>
    cases reply with
    | ok => cases h; exact .authorized hcheck
    | refused error => cases h; exact .answers hcheck rfl
    | failed | found | started | rows => cases h
  | sourceThread source =>
    cases reply with
    | found present => cases present <;> (cases h; exact .waits hcheck rfl (.inl rfl))
    | ok | refused | failed | started | rows => cases h
  | materializeRollout source =>
    cases reply with
    | ok => cases h; exact .waits hcheck rfl (.inl rfl)
    | refused | failed | found | started | rows => cases h
  | flushRollout source =>
    cases reply with
    | ok => cases h; exact .waits hcheck rfl (.inl rfl)
    | failed text => cases h; exact .answers hcheck rfl
    | refused | found | started | rows => cases h
  | threadPath request =>
    cases reply with
    | found present =>
      cases present with
      | true => cases h; exact .rolloutFound
      | false => cases h; exact .answers hcheck rfl
    | failed text => cases h; exact .answers hcheck rfl
    | refused error =>
      cases request with
      | forkSession source => cases h; exact .answers hcheck rfl
      | newSession | loadSession | resumeSession => cases h
    | ok | started | rows => cases h
  | rolloutHistory id =>
    cases reply with
    | ok => cases h; exact .waits hcheck rfl (.inr rfl)
    | failed text => cases h; exact .answers hcheck rfl
    | refused | found | started | rows => cases h
  | sessionConfig request =>
    cases reply with
    | ok => cases h; exact .waits hcheck rfl (.inr (by cases request <;> rfl))
    | refused error => cases h; exact .answers hcheck rfl
    | failed | found | started | rows => cases h
  | startThread request =>
    cases reply with
    | started threadId thread =>
      simp only [CodexAgent.resume] at h
      split at h
      next => cases h
      next hfresh => cases h; exact .threadStarted hfresh
    | failed text => cases h; exact .waits hcheck rfl (.inl rfl)
    | ok | refused | found | rows => cases h
  | shutdownBridges error =>
    cases reply with
    | ok => cases h; exact .answers hcheck rfl
    | refused | failed | found | started | rows => cases h
  | replayHistory request id thread =>
    cases reply with
    | ok => cases h; exact .waits hcheck rfl (.inr rfl)
    | refused error => cases h; exact .waits hcheck rfl (.inl rfl)
    | failed | found | started | rows => cases h
  | threadLoad request id thread =>
    cases reply with
    | ok => cases h; exact .inserts hcheck
    | refused error => cases h; exact .waits hcheck rfl (.inl rfl)
    | failed | found | started | rows => cases h
  | discard id thread error =>
    cases reply with
    | ok => cases h; exact .discards hcheck
    | refused | failed | found | started | rows => cases h
  | liveRolloutItems id thread =>
    cases reply with
    | found present => cases h; exact .waits hcheck rfl (.inl rfl)
    | ok | refused | failed | started | rows => cases h
  | replaceClient thread replays =>
    cases reply with
    | ok => cases replays <;> (cases h; exact .waits hcheck rfl (.inl rfl))
    | refused error => cases replays <;> (cases h; exact .answers hcheck rfl)
    | failed | found | started | rows => cases replays <;> cases h
  | liveReplay thread =>
    cases reply with
    | ok => cases h; exact .waits hcheck rfl (.inl rfl)
    | refused error => cases h; exact .answers hcheck rfl
    | failed | found | started | rows => cases h
  | liveLoad thread =>
    cases reply with
    | ok => cases h; exact .answers hcheck rfl
    | refused error => cases h; exact .answers hcheck rfl
    | failed | found | started | rows => cases h
  | closeShutdown id thread =>
    cases reply with
    | ok =>
      simp only [CodexAgent.resume] at h
      split at h
      next text hid => cases h; exact .closeFails hcheck hid
      next => cases h; exact .closeStops hcheck
    | refused | failed | found | started | rows => cases h
  | closeRemoveThread id thread =>
    cases reply with
    | ok => cases h; exact .closeRemoves hcheck
    | refused | failed | found | started | rows => cases h
  | deleteShutdown id thread =>
    cases reply with
    | ok => cases h; exact .deleteStops hcheck
    | refused | failed | found | started | rows => cases h
  | deleteRemoveThread id =>
    cases reply with
    | ok => cases h; exact .waits hcheck rfl (.inl rfl)
    | refused | failed | found | started | rows => cases h
  | deletePath id deleted =>
    cases reply with
    | found present =>
      cases present with
      | true => cases h; exact .waits hcheck rfl (.inl rfl)
      | false => cases h; exact .fileDeleted hcheck rfl
    | failed text => cases h; exact .answers hcheck rfl
    | ok | refused | started | rows => cases h
  | deleteFile id deleted =>
    cases reply with
    | ok => cases h; exact .fileDeleted hcheck rfl
    | found present =>
      cases present with
      | true => cases h
      | false => cases h; exact .fileDeleted hcheck rfl
    | failed text => cases h; exact .answers hcheck rfl
    | refused | started | rows => cases h
  | deleteRows deleted =>
    cases reply with
    | rows count => cases h; exact .finishDelete
    | failed text => cases h; exact .answers hcheck rfl
    | ok | refused | found | started => cases h

private theorem SessionEffect.suspends (hcheck : a.checkHolds store l = true) {q : Suspended}
    (hq : q.held = a.held n) : SessionEffect store a l (a.suspend n q) := by
  refine .keeps hcheck rfl rfl ?_
  rw [CodexAgent.held_suspend, hq, Function.update_eq_self]

private theorem SessionEffect.answers (hcheck : a.checkHolds store l = true) (result : SessionResult)
    (hn : a.held n = none) : SessionEffect store a l (a.answer n result) := by
  refine .keeps hcheck rfl rfl ?_
  rw [CodexAgent.held_answer, ← hn, Function.update_eq_self]

private theorem receive_effect (request : Request) (hn : a.inFlight.lookup n = none) :
    SessionEffect store a (.receive n request) (a.receive store n request) := by
  have hheld : a.held n = none := by
    unfold CodexAgent.held
    rw [hn]
    rfl
  unfold CodexAgent.receive
  split
  next => exact .suspends rfl hheld.symm
  next id =>
    split
    next => exact .answers rfl _ hheld
    next thread hid => exact .finds n id thread rfl hheld hid rfl rfl (CodexAgent.held_suspend _)
  next id =>
    have hcheck : a.checkHolds store (.receive n (.deleteSession id)) =
        !((store.fromString id).isOk && a.holdsAnother id none) := rfl
    split
    next hid =>
      rw [hid] at hcheck
      exact .answers hcheck _ hheld
    next hok =>
      rw [hok] at hcheck
      split
      next hid =>
        have hnone : a.holdsAnother id none = false := by
          unfold CodexAgent.holdsAnother
          rw [hid]
        rw [hnone] at hcheck
        exact .suspends hcheck hheld.symm
      next thread hid =>
        exact .takes n id thread hcheck hheld hid rfl rfl (CodexAgent.held_suspend _)

private theorem authorized_effect (hcheck : a.checkHolds store l = true) (hn : a.held n = none)
    (request : Opening) : SessionEffect store a l (a.authorized store n request) := by
  unfold CodexAgent.authorized
  split
  next => exact .suspends hcheck hn.symm
  next => split <;> exact .suspends hcheck hn.symm
  next => split <;> exact .suspends hcheck hn.symm
  next =>
    split
    next => exact .answers hcheck _ hn
    next => exact .suspends hcheck hn.symm

private theorem rolloutFound_effect (hcheck : a.checkHolds store l = true) (hn : a.held n = none)
    (request : Opening) : SessionEffect store a l (a.rolloutFound n request) := by
  unfold CodexAgent.rolloutFound
  split <;> exact .suspends hcheck hn.symm

private theorem threadStarted_effect (hcheck : a.checkHolds store l = true) (hn : a.held n = none)
    {thread : ThreadRef} (hfresh : a.threads.lookup thread = none) (id : SessionId)
    (request : Opening) : SessionEffect store a l (a.threadStarted n thread id request) := by
  unfold CodexAgent.threadStarted
  dsimp only
  split <;> exact .creates n id thread hcheck hn hfresh rfl rfl (CodexAgent.held_suspend _)

private theorem finishDelete_effect (hcheck : a.checkHolds store l = true) (hn : a.held n = none)
    (deleted : Bool) : SessionEffect store a l (a.finishDelete n deleted) := by
  unfold CodexAgent.finishDelete
  split <;> exact .answers hcheck _ hn

private theorem fileDeleted_effect (hcheck : a.checkHolds store l = true) (hn : a.held n = none)
    (deleted : Bool) : SessionEffect store a l (a.fileDeleted store n deleted) := by
  unfold CodexAgent.fileDeleted
  split
  next => exact .suspends hcheck hn.symm
  next => exact finishDelete_effect hcheck hn deleted

private theorem resume_effect {reply : Reply} (hp : a.inFlight.lookup n = some p)
    (h : a.resume store n p reply = some a') :
    SessionEffect store a (.resume n reply) a' := by
  have hn := CodexAgent.held_of_lookup hp
  cases resume_cases hp h with
  | waits hcheck hheld _ => exact .suspends hcheck (hheld.trans hn.symm)
  | answers hcheck hheld => exact .answers hcheck _ (hn.trans hheld)
  | authorized hcheck => exact authorized_effect hcheck hn _
  | rolloutFound => exact rolloutFound_effect rfl hn _
  | threadStarted hfresh => exact threadStarted_effect rfl hn hfresh _ _
  | inserts hcheck => exact .publishes n _ _ hcheck hn rfl rfl (CodexAgent.held_answer _)
  | discards hcheck =>
    exact .stops n .opened _ _ none hcheck hn (.inl ⟨rfl, .inl rfl⟩) rfl rfl
      (CodexAgent.held_answer _)
  | closeFails hcheck hid =>
    exact .stops n .stopping _ _ none hcheck hn (.inr (.inr ⟨rfl, by rw [hid]; rfl⟩)) rfl rfl
      (CodexAgent.held_answer _)
  | closeStops hcheck =>
    exact .stops n .stopping _ _ _ hcheck hn (.inr (.inl ⟨rfl, rfl⟩)) rfl rfl
      (CodexAgent.held_suspend _)
  | closeRemoves hcheck => exact .removes n _ _ hcheck hn rfl rfl (CodexAgent.held_answer _)
  | deleteStops hcheck =>
    exact .stops n .taken _ _ none hcheck hn (.inl ⟨rfl, .inr rfl⟩) rfl rfl
      (CodexAgent.held_suspend _)
  | fileDeleted hcheck hheld => exact fileDeleted_effect hcheck (hn.trans hheld) _
  | finishDelete => exact finishDelete_effect rfl hn _

/-- **Every step of the agent is one of the effects.** -/
theorem session_effect (h : a.step store l = some a') : SessionEffect store a l a' := by
  unfold CodexAgent.step at h
  split at h
  next n request =>
    split at h
    next => cases h
    next hn =>
      cases h
      exact receive_effect request hn
  next n reply =>
    split at h
    next p hp => exact resume_effect hp h
    next => cases h

end Effect

end CodexAcp.Agent
