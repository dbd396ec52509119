import CodexAcp.Agent.Placement

/-!
# The sessions map holds the threads that run

A handler looks its session up, waits for Codex, and acts on the map by id. As
long as what it looked up still holds when it acts, no thread gets lost: at rest
the map holds exactly the threads that were created and not shut down, each
under its session, and what is overwritten or removed meanwhile was shut down
before. A delete is the exception by its order: it takes its thread out of the
map first and shuts it down after.

> `sessions_agree_iff`: on every run, every step keeps the map so if and only
> if no insertion, no close's removal and no delete's meets, under its id, a
> running thread other than the one a close itself has shut down.
> `sessions_lose_thread`: two loads of one session that both find the map empty
> resume two threads, and the second insertion loses the first.

The invariant is `Placement`. That a rollout is only found under an id that
parses as a thread id is what Codex's search promises; without it a close would
shut its thread down and then fail, with the entry still there.
-/

namespace CodexAcp.Agent

open CodexAcp.Lib CodexAcp.Protocol

/-! ## Only thread ids name sessions -/

/-- Codex finds a rollout only for the text of a thread id. -/
def findsThreadId (store : ThreadStore) (a : CodexAgent) : Label → Bool
  | .resume n (.found true) =>
    match a.inFlight.lookup n with
    | some (.threadPath (.loadSession id)) => (store.fromString id).isOk
    | some (.threadPath (.resumeSession id)) => (store.fromString id).isOk
    | _ => true
  | _ => true

/-- The sessions in the map, and those about to get there, have thread ids. -/
structure Parsed (store : ThreadStore) (a : CodexAgent) : Prop where
  entry : ∀ {id thread}, a.sessions.lookup id = some thread → (store.fromString id).isOk = true
  located : ∀ {n p id}, a.inFlight.lookup n = some p → p.located = some id →
    (store.fromString id).isOk = true

section Parsed

variable {store : ThreadStore} {a a' : CodexAgent} {n : RequestId} {p : Suspended}
  {id : SessionId} {thread : ThreadRef}

theorem Parsed.suspend (h : Parsed store a) {q : Suspended}
    (hq : ∀ id, q.located = some id → (store.fromString id).isOk = true) :
    Parsed store (a.suspend n q) := by
  refine ⟨h.entry, fun {m p id} hp hid => ?_⟩
  rcases Dict.lookup_insert_eq_some.mp hp with ⟨_, rfl⟩ | ⟨_, hp⟩
  · exact hq id hid
  · exact h.located hp hid

theorem Parsed.suspend_none (h : Parsed store a) {q : Suspended} (hq : q.located = none) :
    Parsed store (a.suspend n q) :=
  h.suspend fun id hid => by rw [hq] at hid; cases hid

theorem Parsed.suspend_same (h : Parsed store a) (hp : a.inFlight.lookup n = some p)
    {q : Suspended} (hq : q.located = p.located) : Parsed store (a.suspend n q) :=
  h.suspend fun _ hid => h.located hp (hq ▸ hid)

theorem Parsed.answer (h : Parsed store a) (result : SessionResult) :
    Parsed store (a.answer n result) :=
  ⟨h.entry, fun hp hid => h.located (Dict.lookup_erase_eq_some.mp hp).2 hid⟩

theorem Parsed.createThread (h : Parsed store a) : Parsed store (a.createThread thread id) :=
  ⟨h.entry, h.located⟩

theorem Parsed.shutdown (h : Parsed store a) : Parsed store (a.shutdown thread) :=
  ⟨h.entry, h.located⟩

theorem Parsed.removeSession (h : Parsed store a) : Parsed store (a.removeSession id) :=
  ⟨fun ht => h.entry (Dict.lookup_erase_eq_some.mp ht).2, h.located⟩

theorem Parsed.insertSessionThread (h : Parsed store a)
    (hid : (store.fromString id).isOk = true) : Parsed store (a.insertSessionThread id thread) := by
  refine ⟨fun {id' t} ht => ?_, h.located⟩
  rcases Dict.lookup_insert_eq_some.mp ht with ⟨rfl, _⟩ | ⟨_, ht⟩
  · exact hid
  · exact h.entry ht

/-- The session of a close in flight has a thread id. -/
theorem Parsed.closing (h : Parsed store a) (hn : a.held n = some ⟨.stopping, id, thread⟩) :
    (store.fromString id).isOk = true := by
  obtain ⟨p, hp, hheld⟩ := Option.bind_eq_some_iff.mp hn
  cases p <;> cases hheld
  exact h.located hp rfl

private theorem receive_parsed (h : Parsed store a) (request : Request) :
    Parsed store (a.receive store n request) := by
  unfold CodexAgent.receive
  split
  next => exact h.suspend_none rfl
  next id =>
    split
    next => exact h.answer _
    next thread hid =>
      refine h.suspend fun id' hid' => ?_
      cases hid'
      exact h.entry hid
  next id =>
    split
    next => exact h.answer _
    next =>
      split
      next => exact h.suspend_none rfl
      next => exact h.removeSession.suspend_none rfl

private theorem authorized_parsed (h : Parsed store a) (request : Opening) :
    Parsed store (a.authorized store n request) := by
  unfold CodexAgent.authorized
  split
  next => exact h.suspend_none rfl
  next => split <;> exact h.suspend_none rfl
  next => split <;> exact h.suspend_none rfl
  next =>
    split
    next => exact h.answer _
    next => exact h.suspend_none rfl

private theorem rolloutFound_parsed (h : Parsed store a) {request : Opening}
    (hp : a.inFlight.lookup n = some (.threadPath request))
    (henv : findsThreadId store a (.resume n (.found true)) = true) :
    Parsed store (a.rolloutFound n request) := by
  simp only [findsThreadId, hp] at henv
  unfold CodexAgent.rolloutFound
  cases request with
  | newSession => exact h.suspend_none rfl
  | loadSession id => exact h.suspend fun id' hid' => by cases hid'; exact henv
  | resumeSession id => exact h.suspend fun id' hid' => by cases hid'; exact henv
  | forkSession source => exact h.suspend_none rfl

private theorem threadStarted_parsed (h : Parsed store a) {request : Opening}
    (hp : a.inFlight.lookup n = some (.startThread request)) (threadId : ThreadId) :
    Parsed store (a.threadStarted n thread (request.sessionId store threadId) request) := by
  have hid : (store.fromString (request.sessionId store threadId)).isOk = true := by
    cases request with
    | newSession => rw [Opening.sessionId, store.fromString_toString]; rfl
    | loadSession id => exact h.located hp rfl
    | resumeSession id => exact h.located hp rfl
    | forkSession source => rw [Opening.sessionId, store.fromString_toString]; rfl
  unfold CodexAgent.threadStarted
  dsimp only
  split <;> exact h.createThread.suspend fun id' hid' => by cases hid'; exact hid

private theorem finishDelete_parsed (h : Parsed store a) (deleted : Bool) :
    Parsed store (a.finishDelete n deleted) := by
  unfold CodexAgent.finishDelete
  split <;> exact h.answer _

private theorem fileDeleted_parsed (h : Parsed store a) (deleted : Bool) :
    Parsed store (a.fileDeleted store n deleted) := by
  unfold CodexAgent.fileDeleted
  split
  next => exact h.suspend_none rfl
  next => exact finishDelete_parsed h deleted

private theorem resume_parsed {reply : Reply} (h : Parsed store a)
    (henv : findsThreadId store a (.resume n reply) = true) (hp : a.inFlight.lookup n = some p)
    (hstep : a.resume store n p reply = some a') : Parsed store a' := by
  cases resume_cases hp hstep with
  | waits _ _ hlocated =>
    rcases hlocated with hnone | hsame
    · exact h.suspend_none hnone
    · exact h.suspend_same hp hsame
  | answers => exact h.answer _
  | authorized => exact authorized_parsed h _
  | rolloutFound => exact rolloutFound_parsed h hp henv
  | threadStarted => exact threadStarted_parsed h hp _
  | inserts => exact (h.insertSessionThread (h.located hp rfl)).answer _
  | discards | closeFails => exact h.shutdown.answer _
  | closeStops | deleteStops => exact h.shutdown.suspend_none rfl
  | closeRemoves => exact h.removeSession.answer _
  | fileDeleted => exact fileDeleted_parsed h _
  | finishDelete => exact finishDelete_parsed h _

/-- Where Codex finds rollouts of thread ids only, sessions have thread ids. -/
theorem parsed_step {l : Label} (h : Parsed store a) (henv : findsThreadId store a l = true)
    (hstep : a.step store l = some a') : Parsed store a' := by
  unfold CodexAgent.step at hstep
  split at hstep
  next n request =>
    split at hstep
    next => cases hstep
    next =>
      cases hstep
      exact receive_parsed h request
  next n reply =>
    split at hstep
    next p hp => exact resume_parsed h henv hp hstep
    next => cases hstep

end Parsed

/-! ## What the map owes -/

/-- The map holds exactly the threads that were created and not shut down, each
under the session it was created for, and a session has one such thread at
most. -/
structure MapAgrees (a : CodexAgent) : Prop where
  holds : ∀ id thread,
    a.sessions.lookup id = some thread ↔ a.threads.lookup thread = some ⟨id, true⟩
  one : ∀ id thread thread', a.threads.lookup thread = some ⟨id, true⟩ →
    a.threads.lookup thread' = some ⟨id, true⟩ → thread = thread'

/-- A thread that leaves the map was shut down. -/
def DropsSafely (a a' : CodexAgent) : Prop :=
  ∀ id thread, a.sessions.lookup id = some thread → a'.sessions.lookup id ≠ some thread →
    a'.isRunning thread = false

/-- A step loses no running thread, and leaves the map right if no handler is in
flight after it. -/
structure KeepsMap (a a' : CodexAgent) : Prop where
  drops : DropsSafely a a'
  agrees : a'.Quiet → MapAgrees a'

/-- The invariant of the runs on which no check is stale. -/
structure SessionsInv (store : ThreadStore) (a : CodexAgent) : Prop where
  placement : Placement a.sessions a.threads a.held
  parsed : Parsed store a

section Agreement

variable {store : ThreadStore} {a a' : CodexAgent} {l : Label} {n : RequestId}
  {id : SessionId} {thread : ThreadRef}

theorem isRunning_of_lookup {running : Bool} (h : a.threads.lookup thread = some ⟨id, running⟩) :
    a.isRunning thread = running := by
  unfold CodexAgent.isRunning
  rw [h]
  rfl

theorem holdsAnother_eq_true {known : Option ThreadRef} :
    a.holdsAnother id known = true ↔
      ∃ t, a.sessions.lookup id = some t ∧ known ≠ some t ∧ a.isRunning t = true := by
  unfold CodexAgent.holdsAnother
  cases h : a.sessions.lookup id with
  | none => simp
  | some t => simp

/-- A thread the map holds is the known one or does not run, where the check holds. -/
theorem not_running_of_check {known : Option ThreadRef} (h : (!a.holdsAnother id known) = true)
    {t : ThreadRef} (ht : a.sessions.lookup id = some t) :
    known = some t ∨ a.isRunning t = false := by
  by_contra hnot
  rw [not_or, Bool.not_eq_false] at hnot
  rw [holdsAnother_eq_true.mpr ⟨t, ht, hnot⟩] at h
  cases h

/-- With no handler in flight, the placement is agreement. -/
theorem mapAgrees_of_quiet (h : Placement a.sessions a.threads a.held) (hquiet : a.Quiet) :
    MapAgrees a := by
  have hheld : ∀ n, a.held n = none := fun n => by
    unfold CodexAgent.held
    rw [hquiet n]
    rfl
  have hplaced : ∀ {id thread}, a.threads.lookup thread = some ⟨id, true⟩ →
      a.sessions.lookup id = some thread := by
    intro id thread ht
    rcases h.placed ht with hid | ⟨n, hn | hn⟩
    · exact hid
    · rw [hheld n] at hn
      cases hn
    · rw [hheld n] at hn
      cases hn
  refine ⟨fun id thread => ⟨fun hid => ?_, hplaced⟩, fun id thread thread' ht ht' => ?_⟩
  · rcases h.entry hid with hrun | ⟨_, n, hn⟩
    · exact hrun
    · rw [hheld n] at hn
      cases hn
  · have hsame := (hplaced ht).symm.trans (hplaced ht')
    exact Option.some.inj hsame

/-- A step whose check holds keeps the placement. -/
theorem placement_step (h : SessionsInv store a) (hcheck : a.checkHolds store l = true)
    (hstep : a.step store l = some a') : Placement a'.sessions a'.threads a'.held := by
  have hp := h.placement
  cases session_effect hstep with
  | keeps _ hsessions hthreads hheld =>
    rw [hsessions, hthreads, hheld]
    exact hp
  | creates n id thread _ hn hfresh hsessions hthreads hheld =>
    rw [hsessions, hthreads, hheld]
    exact hp.creates hn hfresh
  | publishes n id thread hc hn hsessions hthreads hheld =>
    rw [hsessions, hthreads, hheld]
    refine hp.publishes hn fun ht hrun => ?_
    rcases not_running_of_check (hc.symm.trans hcheck) ht with hnone | hdead
    · cases hnone
    · rw [isRunning_of_lookup hrun] at hdead
      cases hdead
  | stops n role id thread next _ hn hnext hsessions hthreads hheld =>
    rw [hsessions, hthreads, hheld]
    rcases hnext with hcarried | hclose | ⟨rfl, herror⟩
    · exact hp.stops hn (.inl hcarried)
    · exact hp.stops hn (.inr hclose)
    -- No close in flight has an id that is no thread id.
    · rw [h.parsed.closing hn] at herror
      cases herror
  | finds n id thread _ hn hid hsessions hthreads hheld =>
    rw [hsessions, hthreads, hheld]
    exact hp.finds hn hid
  | removes n id thread hc hn hsessions hthreads hheld =>
    rw [hsessions, hthreads, hheld]
    refine hp.removes hn fun {t} ht => ?_
    rcases not_running_of_check (hc.symm.trans hcheck) ht with hknown | hdead
    · exact .inl (Option.some.inj hknown).symm
    · refine .inr fun hrun => ?_
      rw [isRunning_of_lookup hrun] at hdead
      cases hdead
  | takes n id thread _ hn hid hsessions hthreads hheld =>
    rw [hsessions, hthreads, hheld]
    exact hp.takes hn hid

/-- A step whose check holds loses no running thread. -/
theorem dropsSafely_of_check (h : Placement a.sessions a.threads a.held)
    (hcheck : a.checkHolds store l = true) (hstep : a.step store l = some a') :
    DropsSafely a a' := by
  intro id' t ht hdrop
  have hrunning : a'.threads = a.threads → a.isRunning t = false → a'.isRunning t = false := by
    intro hthreads hdead
    unfold CodexAgent.isRunning at hdead ⊢
    rw [hthreads]
    exact hdead
  cases session_effect hstep with
  | keeps _ hsessions _ _ => exact absurd (hsessions ▸ ht) hdrop
  | creates _ _ _ _ _ _ hsessions _ _ => exact absurd (hsessions ▸ ht) hdrop
  | stops _ _ _ _ _ _ _ _ hsessions _ _ => exact absurd (hsessions ▸ ht) hdrop
  | finds _ _ _ _ _ _ hsessions _ _ => exact absurd (hsessions ▸ ht) hdrop
  | publishes n id thread hc _ hsessions hthreads _ =>
    rw [hsessions] at hdrop
    by_cases hsame : id' = id
    · subst hsame
      rcases not_running_of_check (hc.symm.trans hcheck) ht with hnone | hdead
      · cases hnone
      · exact hrunning hthreads hdead
    · exact absurd (Dict.lookup_insert_eq_some.mpr (.inr ⟨hsame, ht⟩)) hdrop
  | removes n id thread hc hn hsessions hthreads _ =>
    rw [hsessions] at hdrop
    by_cases hsame : id' = id
    · subst hsame
      refine hrunning hthreads ?_
      rcases not_running_of_check (hc.symm.trans hcheck) ht with hknown | hdead
      · rw [← Option.some.inj hknown]
        exact isRunning_of_lookup (h.stopped hn)
      · exact hdead
    · exact absurd (Dict.lookup_erase_eq_some.mpr ⟨hsame, ht⟩) hdrop
  | takes n id thread hc _ _ hsessions hthreads _ =>
    rw [hsessions] at hdrop
    by_cases hsame : id' = id
    · subst hsame
      rcases not_running_of_check (hc.symm.trans hcheck) ht with hnone | hdead
      · cases hnone
      · exact hrunning hthreads hdead
    · exact absurd (Dict.lookup_erase_eq_some.mpr ⟨hsame, ht⟩) hdrop

/-- A step that loses no running thread met no other one under its id. -/
theorem check_of_dropsSafely (h : Placement a.sessions a.threads a.held)
    (hdrops : DropsSafely a a') (hstep : a.step store l = some a') :
    a.checkHolds store l = true := by
  -- A running thread that was in the map is still there.
  have hkept : ∀ {id t}, a'.threads = a.threads → a.sessions.lookup id = some t →
      a.isRunning t = true → a'.sessions.lookup id = some t := by
    intro id t hthreads ht hrun
    by_contra hgone
    have hdead := hdrops id t ht hgone
    unfold CodexAgent.isRunning at hdead hrun
    rw [hthreads, hrun] at hdead
    cases hdead
  cases session_effect hstep with
  | keeps hcheck _ _ _ => exact hcheck
  | creates _ _ _ hcheck _ _ _ _ _ => exact hcheck
  | stops _ _ _ _ _ hcheck _ _ _ _ _ => exact hcheck
  | finds _ _ _ hcheck _ _ _ _ _ => exact hcheck
  | publishes n id thread hc hn hsessions hthreads _ =>
    rw [hc, Bool.not_eq_true', ← Bool.not_eq_true, holdsAnother_eq_true]
    rintro ⟨t, ht, _, hrun⟩
    have hstill := hkept hthreads ht hrun
    rw [hsessions, AList.lookup_insert] at hstill
    cases hstill
    exact h.away ⟨n, .inl hn⟩ ht
  | removes n id thread hc _ hsessions hthreads _
  | takes n id thread hc _ _ hsessions hthreads _ =>
    rw [hc, Bool.not_eq_true', ← Bool.not_eq_true, holdsAnother_eq_true]
    rintro ⟨t, ht, _, hrun⟩
    have hstill := hkept hthreads ht hrun
    rw [hsessions, AList.lookup_erase] at hstill
    cases hstill

/-- An agent starts with no sessions. -/
theorem sessionsInv_start (store : ThreadStore) : SessionsInv store {} := by
  have hfree : ∀ {n h}, ({} : CodexAgent).held n ≠ some h := nofun
  refine ⟨⟨nofun, fun hn => absurd hn hfree, fun hn => absurd hn hfree,
    fun hn => absurd hn hfree, fun hn => absurd hn hfree, ?_, nofun⟩, ⟨nofun, nofun⟩⟩
  rintro id thread ⟨n, hn | hn⟩
  · exact absurd hn hfree
  · exact absurd hn hfree

end Agreement

/-- **The sessions map agrees with the threads that run**, along a run of any
interleaving of the handlers, if and only if no insertion and no removal meets a
running thread under its id, other than the one that a close itself has shut
down. -/
theorem sessions_agree_iff {store : ThreadStore} {labels : List Label}
    (hfinds : Along (CodexAgent.step store) (fun a l _ => findsThreadId store a l = true) {}
      labels) :
    Along (CodexAgent.step store) (fun a l _ => a.checkHolds store l = true) {} labels ↔
      Along (CodexAgent.step store) (fun a _ a' => KeepsMap a a') {} labels := by
  refine along_iff_of_invariant (I := SessionsInv store) (fun a l a' h hfind hstep => ?_) labels
    (sessionsInv_start store) hfinds
  refine ⟨⟨fun hcheck => ⟨dropsSafely_of_check h.placement hcheck hstep, fun hquiet => ?_⟩,
    fun hkeeps => check_of_dropsSafely h.placement hkeeps.drops hstep⟩,
    fun hcheck => ⟨placement_step h hcheck hstep, parsed_step h.parsed hfind hstep⟩⟩
  exact mapAgrees_of_quiet (placement_step h hcheck hstep) hquiet

/-! ## Runs -/

/-- A new session is opened, loaded again while it is live, and closed. -/
def openLoadClose : List Label :=
  [.receive 0 (.opening .newSession), .resume 0 .ok, .resume 0 .ok, .resume 0 (.started "s" 0),
   .receive 1 (.opening (.loadSession "s")), .resume 0 .ok, .resume 1 .ok,
   .resume 1 (.found false), .resume 1 .ok, .receive 2 (.closeSession "s"), .resume 1 .ok,
   .resume 2 .ok, .resume 2 .ok]

theorem sessions_agree_openLoadClose :
    (exec (CodexAgent.step plainStore) {} openLoadClose).isSome = true ∧
      Along (CodexAgent.step plainStore) (fun a _ a' => KeepsMap a a') {} openLoadClose :=
  ⟨by decide +kernel, (sessions_agree_iff (by decide +kernel)).mp (by decide +kernel)⟩

/-- Two loads of one session: each looks the session up before the other has
inserted its thread. -/
def twoLoads : List Label :=
  [.receive 0 (.opening (.loadSession "s")), .resume 0 .ok,
   .receive 1 (.opening (.loadSession "s")), .resume 1 .ok,
   .resume 0 (.found true), .resume 0 .ok, .resume 0 .ok, .resume 0 (.started "s" 0),
   .resume 1 (.found true), .resume 1 .ok, .resume 1 .ok, .resume 1 (.started "s" 1),
   .resume 0 .ok, .resume 0 .ok, .resume 1 .ok, .resume 1 .ok]

/-- **Two loads of one session lose a running thread.** Both find the map empty
and resume the session; the second insertion overwrites the first. At rest two
threads of the session run, and the map holds one of them. -/
theorem sessions_lose_thread :
    Along (CodexAgent.step plainStore) (fun a l _ => findsThreadId plainStore a l = true) {}
      twoLoads ∧
    ∃ a, exec (CodexAgent.step plainStore) {} twoLoads = some a ∧ a.Quiet ∧
      a.threads.lookup 0 = some ⟨"s", true⟩ ∧ a.threads.lookup 1 = some ⟨"s", true⟩ ∧
      a.sessions.lookup "s" = some 1 ∧ ¬ MapAgrees a := by
  refine ⟨by decide +kernel, _, rfl, fun n => ?_, rfl, rfl, rfl, fun h => ?_⟩
  · rfl
  · exact absurd ((h.holds "s" 0).mpr rfl) (by decide)

end CodexAcp.Agent
