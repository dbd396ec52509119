import CodexAcp.Agent.SessionEffect

/-!
# Where the threads of the sessions are

Every running thread is in the map under its session, or carried by one handler:
the one that created it and has not published it yet, or a delete that took it
out and has not shut it down yet. An entry whose thread does not run is left by
a close between its shutdown and its removal. `Placement` says this of the map,
the threads and what the handlers hold; every effect of a step keeps it, an
insertion and a close's removal on the condition that they meet no running
thread they do not know.

> `Placement.creates`, `.publishes`, `.stops`, `.finds`, `.removes`, `.takes`.
-/

namespace CodexAcp.Agent

open CodexAcp.Lib CodexAcp.Protocol

/-! ## Where the threads are -/

/-- A handler holds the thread of the session outside the map. -/
def Carried (held : RequestId → Option Held) (id : SessionId) (thread : ThreadRef) : Prop :=
  ∃ n, held n = some ⟨.opened, id, thread⟩ ∨ held n = some ⟨.taken, id, thread⟩

/-- Where the threads of the sessions are: in the map, with a handler, or shut
down. -/
structure Placement (sessions : Dict SessionId ThreadRef) (threads : Dict ThreadRef SessionThread)
    (held : RequestId → Option Held) : Prop where
  /-- An entry's thread runs, or a close has shut it down and will remove it. -/
  entry : ∀ {id thread}, sessions.lookup id = some thread →
    threads.lookup thread = some ⟨id, true⟩ ∨
      (threads.lookup thread = some ⟨id, false⟩ ∧ ∃ n, held n = some ⟨.stopped, id, thread⟩)
  /-- A handler acts for the session its thread was created for. -/
  known : ∀ {n role id thread}, held n = some ⟨role, id, thread⟩ →
    ∃ running, threads.lookup thread = some ⟨id, running⟩
  opened : ∀ {n id thread}, held n = some ⟨.opened, id, thread⟩ →
    threads.lookup thread = some ⟨id, true⟩
  stopped : ∀ {n id thread}, held n = some ⟨.stopped, id, thread⟩ →
    threads.lookup thread = some ⟨id, false⟩
  /-- Nobody else acts on a thread that was not published. -/
  alone : ∀ {n m id role id' thread}, held n = some ⟨.opened, id, thread⟩ →
    held m = some ⟨role, id', thread⟩ → m = n
  /-- What a handler carries is not in the map. -/
  away : ∀ {id thread}, Carried held id thread → sessions.lookup id ≠ some thread
  /-- A running thread is in the map, or a handler carries it. -/
  placed : ∀ {id thread}, threads.lookup thread = some ⟨id, true⟩ →
    sessions.lookup id = some thread ∨ Carried held id thread

/-- The threads, once one of them is shut down. -/
theorem lookup_shutdown {a : CodexAgent} {thread t : ThreadRef} {id : SessionId} {running : Bool} :
    (a.shutdown thread).threads.lookup t = some ⟨id, running⟩ ↔
      (t = thread ∧ running = false ∧ ∃ r, a.threads.lookup t = some ⟨id, r⟩) ∨
        (t ≠ thread ∧ a.threads.lookup t = some ⟨id, running⟩) := by
  unfold CodexAgent.shutdown
  rw [Dict.lookup_mapValues, Option.map_eq_some_iff]
  constructor
  · rintro ⟨⟨id', r⟩, ht, hr⟩
    split at hr
    next h =>
      cases hr
      exact .inl ⟨h, rfl, r, ht⟩
    next h =>
      cases hr
      exact .inr ⟨h, ht⟩
  · rintro (⟨h, rfl, r, ht⟩ | ⟨h, ht⟩)
    · exact ⟨⟨id, r⟩, ht, by rw [if_pos h]⟩
    · exact ⟨⟨id, running⟩, ht, by rw [if_neg h]⟩

section Held

variable {held : RequestId → Option Held} {n m : RequestId} {next : Option Held} {h : Held}

/-- What is held after one handler moved is what it holds now, or what another held. -/
theorem held_update (hm : Function.update held n next m = some h) :
    (m = n ∧ next = some h) ∨ (m ≠ n ∧ held m = some h) := by
  by_cases hmn : m = n
  · subst hmn
    rw [Function.update_self] at hm
    exact .inl ⟨rfl, hm⟩
  · rw [Function.update_of_ne hmn] at hm
    exact .inr ⟨hmn, hm⟩

/-- What the handler that moved did not hold is still held. -/
theorem held_update_of_ne (hm : held m = some h) (hn : held n ≠ some h) :
    Function.update held n next m = some h := by
  have hmn : m ≠ n := by
    rintro rfl
    exact hn hm
  rw [Function.update_of_ne hmn]
  exact hm

/-- What is held in another role than the handler that moved took was held before. -/
theorem held_update_role {role role' : Role} {id id' : SessionId} {thread t : ThreadRef}
    (hm : Function.update held n (some ⟨role, id, thread⟩) m = some ⟨role', id', t⟩)
    (hrole : role' ≠ role) : held m = some ⟨role', id', t⟩ := by
  rcases held_update hm with ⟨_, hx⟩ | ⟨_, hm⟩
  · cases hx
    exact absurd rfl hrole
  · exact hm

end Held

/-! ## Every effect keeps the placement -/

section Keep

variable {sessions : Dict SessionId ThreadRef} {threads : Dict ThreadRef SessionThread}
  {held : RequestId → Option Held} {n m : RequestId} {id id' : SessionId} {thread : ThreadRef}

/-- An entry's thread was created for the entry's session. -/
theorem Placement.entry_known (h : Placement sessions threads held)
    (hid : sessions.lookup id = some thread) :
    ∃ running, threads.lookup thread = some ⟨id, running⟩ := by
  rcases h.entry hid with hrun | ⟨hdead, _⟩
  · exact ⟨true, hrun⟩
  · exact ⟨false, hdead⟩

/-- A thread in the map was published. -/
theorem Placement.entry_published (h : Placement sessions threads held)
    (hid : sessions.lookup id = some thread) : held m ≠ some ⟨.opened, id', thread⟩ := by
  intro hm
  have hopen := h.opened hm
  have hsame : id' = id := by
    obtain ⟨_, ht⟩ := h.entry_known hid
    rw [hopen] at ht
    cases ht
    rfl
  subst hsame
  exact h.away ⟨m, .inl hm⟩ hid

/-- A handler that takes hold of an entry's thread acts for the entry's session. -/
theorem Placement.entry_held_known {role role' : Role} {t : ThreadRef}
    (h : Placement sessions threads held) (hid : sessions.lookup id = some thread)
    (hm : Function.update held n (some ⟨role, id, thread⟩) m = some ⟨role', id', t⟩) :
    ∃ running, threads.lookup t = some ⟨id', running⟩ := by
  rcases held_update hm with ⟨_, hx⟩ | ⟨_, hm⟩
  · cases hx
    exact h.entry_known hid
  · exact h.known hm

/-- A handler that takes hold of an entry's thread meets none that opened it. -/
theorem Placement.entry_held_alone {role role' : Role} {id'' : SessionId} {t : ThreadRef}
    {m' : RequestId} (h : Placement sessions threads held) (hid : sessions.lookup id = some thread)
    (hm : held m = some ⟨.opened, id', t⟩)
    (hm' : Function.update held n (some ⟨role, id, thread⟩) m' = some ⟨role', id'', t⟩) :
    m' = m := by
  rcases held_update hm' with ⟨_, hx⟩ | ⟨_, hm'⟩
  · cases hx
    exact absurd hm (h.entry_published hid)
  · exact h.alone hm hm'

theorem Placement.creates (h : Placement sessions threads held) (hn : held n = none)
    (hfresh : threads.lookup thread = none) :
    Placement sessions (threads.insert thread ⟨id, true⟩)
      (Function.update held n (some ⟨.opened, id, thread⟩)) := by
  have hne : ∀ {t r}, threads.lookup t = some r → t ≠ thread := by
    rintro t r ht rfl
    rw [hfresh] at ht
    cases ht
  have hgrow : ∀ {t r}, threads.lookup t = some r →
      AList.lookup t (threads.insert thread ⟨id, true⟩) = some r := fun ht =>
    Dict.lookup_insert_eq_some.mpr (.inr ⟨hne ht, ht⟩)
  have hkeep : ∀ {m x}, held m = some x →
      Function.update held n (some ⟨.opened, id, thread⟩) m = some x := fun hm =>
    held_update_of_ne hm (by rw [hn]; nofun)
  constructor
  · intro id' t ht
    rcases h.entry ht with hrun | ⟨hdead, m, hm⟩
    · exact .inl (hgrow hrun)
    · exact .inr ⟨hgrow hdead, m, hkeep hm⟩
  · intro m role id' t hm
    rcases held_update hm with ⟨_, hx⟩ | ⟨_, hm⟩
    · cases hx
      exact ⟨true, AList.lookup_insert ..⟩
    · obtain ⟨running, ht⟩ := h.known hm
      exact ⟨running, hgrow ht⟩
  · intro m id' t hm
    rcases held_update hm with ⟨_, hx⟩ | ⟨_, hm⟩
    · cases hx
      exact AList.lookup_insert ..
    · exact hgrow (h.opened hm)
  · intro m id' t hm
    exact hgrow (h.stopped (held_update_role hm nofun))
  · intro m m' id' role id'' t hm hm'
    -- The new thread is in no record yet, so no other handler can act on it.
    rcases held_update hm with ⟨hmn, hx⟩ | ⟨_, hm⟩ <;>
      rcases held_update hm' with ⟨hmn', hx'⟩ | ⟨_, hm'⟩
    · rw [hmn, hmn']
    · cases hx
      obtain ⟨_, ht⟩ := h.known hm'
      exact absurd rfl (hne ht)
    · cases hx'
      exact absurd rfl (hne (h.opened hm))
    · exact h.alone hm hm'
  · rintro id' t ⟨m, hm⟩ hid
    obtain ⟨_, ht⟩ := h.entry_known hid
    rcases hm with hm | hm <;> rcases held_update hm with ⟨_, hx⟩ | ⟨_, hm⟩
    · cases hx
      exact absurd rfl (hne ht)
    · exact h.away ⟨m, .inl hm⟩ hid
    · cases hx
    · exact h.away ⟨m, .inr hm⟩ hid
  · intro id' t ht
    rcases Dict.lookup_insert_eq_some.mp ht with ⟨rfl, hrec⟩ | ⟨_, ht⟩
    · cases hrec
      exact .inr ⟨n, .inl (Function.update_self ..)⟩
    · rcases h.placed ht with hid | ⟨m, hm⟩
      · exact .inl hid
      · exact .inr ⟨m, hm.imp hkeep hkeep⟩

theorem Placement.publishes (h : Placement sessions threads held)
    (hn : held n = some ⟨.opened, id, thread⟩)
    (hcheck : ∀ {t}, sessions.lookup id = some t → threads.lookup t ≠ some ⟨id, true⟩) :
    Placement (sessions.insert id thread) threads (Function.update held n none) := by
  have hback : ∀ {m x}, Function.update held n none m = some x → m ≠ n ∧ held m = some x := by
    intro m x hm
    rcases held_update hm with ⟨_, hx⟩ | hm
    · cases hx
    · exact hm
  constructor
  · intro id' t ht
    rcases Dict.lookup_insert_eq_some.mp ht with ⟨rfl, rfl⟩ | ⟨_, ht⟩
    · exact .inl (h.opened hn)
    · rcases h.entry ht with hrun | ⟨hdead, m, hm⟩
      · exact .inl hrun
      · exact .inr ⟨hdead, m, held_update_of_ne hm (by rw [hn]; nofun)⟩
  · intro m role id' t hm
    exact h.known (hback hm).2
  · intro m id' t hm
    exact h.opened (hback hm).2
  · intro m id' t hm
    exact h.stopped (hback hm).2
  · intro m m' id' role id'' t hm hm'
    exact h.alone (hback hm).2 (hback hm').2
  · rintro id' t ⟨m, hm⟩ ht
    have hmn : m ≠ n := hm.elim (fun hm => (hback hm).1) (fun hm => (hback hm).1)
    have hm : held m = some ⟨.opened, id', t⟩ ∨ held m = some ⟨.taken, id', t⟩ :=
      hm.imp (fun hm => (hback hm).2) (fun hm => (hback hm).2)
    rcases Dict.lookup_insert_eq_some.mp ht with ⟨_, rfl⟩ | ⟨_, ht⟩
    · exact hm.elim (fun hm => hmn (h.alone hn hm)) (fun hm => hmn (h.alone hn hm))
    · exact h.away ⟨m, hm⟩ ht
  · intro id' t ht
    rcases h.placed ht with hid | ⟨m, hm⟩
    · by_cases hsame : id' = id
      · subst hsame
        -- The entry displaced by the insertion has no running thread.
        exact absurd ht (hcheck hid)
      · exact .inl (Dict.lookup_insert_eq_some.mpr (.inr ⟨hsame, hid⟩))
    · by_cases hmn : m = n
      · subst hmn
        rw [hn] at hm
        rcases hm with hm | hm <;> cases hm
        exact .inl (AList.lookup_insert ..)
      · refine .inr ⟨m, ?_⟩
        rw [Function.update_of_ne hmn]
        exact hm

/-- A handler that shuts its thread down: it carried the thread, or it is a
close, and then the entry is left for it to remove. -/
theorem Placement.stops {a : CodexAgent} {role : Role} {next : Option Held}
    (h : Placement sessions a.threads held) (hn : held n = some ⟨role, id, thread⟩)
    (hnext : (next = none ∧ (role = .opened ∨ role = .taken)) ∨
      (role = .stopping ∧ next = some ⟨.stopped, id, thread⟩)) :
    Placement sessions (a.shutdown thread).threads (Function.update held n next) := by
  have hrole : role ≠ .stopped := by
    rintro rfl
    rcases hnext with ⟨_, hrole | hrole⟩ | ⟨hrole, _⟩ <;> cases hrole
  have hback : ∀ {m x}, Function.update held n next m = some x →
      (m = n ∧ role = .stopping ∧ x = ⟨.stopped, id, thread⟩) ∨ (m ≠ n ∧ held m = some x) := by
    intro m x hm
    rcases held_update hm with ⟨hmn, hx⟩ | hm
    · rcases hnext with ⟨hnone, _⟩ | ⟨hstop, hsome⟩
      · rw [hnone] at hx
        cases hx
      · rw [hsome] at hx
        cases hx
        exact .inl ⟨hmn, hstop, rfl⟩
    · exact .inr hm
  have hcarried : ∀ {id' t}, Carried (Function.update held n next) id' t → Carried held id' t := by
    rintro id' t ⟨m, hm⟩
    refine ⟨m, hm.imp (fun hm => ?_) (fun hm => ?_)⟩ <;>
      rcases hback hm with ⟨_, _, hx⟩ | ⟨_, hm⟩
    · cases hx
    · exact hm
    · cases hx
    · exact hm
  obtain ⟨r, hthread⟩ := h.known hn
  have hdown : (a.shutdown thread).threads.lookup thread = some ⟨id, false⟩ :=
    lookup_shutdown.mpr (.inl ⟨rfl, rfl, r, hthread⟩)
  constructor
  · intro id' t ht
    by_cases hsame : t = thread
    · -- The handler's own thread: carried threads have no entry, so it is a close.
      subst hsame
      have hid : id' = id := by
        obtain ⟨_, hentry⟩ := h.entry_known ht
        rw [hthread] at hentry
        cases hentry
        rfl
      subst hid
      rcases hnext with ⟨_, hrole | hrole⟩ | ⟨_, hsome⟩
      · rw [hrole] at hn
        exact absurd ht (h.away ⟨n, .inl hn⟩)
      · rw [hrole] at hn
        exact absurd ht (h.away ⟨n, .inr hn⟩)
      · exact .inr ⟨hdown, n, by rw [Function.update_self, hsome]⟩
    · rcases h.entry ht with hrun | ⟨hdead, m, hm⟩
      · exact .inl (lookup_shutdown.mpr (.inr ⟨hsame, hrun⟩))
      · refine .inr ⟨lookup_shutdown.mpr (.inr ⟨hsame, hdead⟩), m, held_update_of_ne hm ?_⟩
        rw [hn]
        rintro ⟨⟩
        exact hsame rfl
  · intro m role' id' t hm
    rcases hback hm with ⟨_, _, hx⟩ | ⟨_, hm⟩
    · cases hx
      exact ⟨false, hdown⟩
    · obtain ⟨r', ht⟩ := h.known hm
      by_cases hsame : t = thread
      · exact ⟨false, lookup_shutdown.mpr (.inl ⟨hsame, rfl, r', ht⟩)⟩
      · exact ⟨r', lookup_shutdown.mpr (.inr ⟨hsame, ht⟩)⟩
  · intro m id' t hm
    rcases hback hm with ⟨_, _, hx⟩ | ⟨hmn, hm⟩
    · cases hx
    · refine lookup_shutdown.mpr (.inr ⟨?_, h.opened hm⟩)
      rintro rfl
      exact hmn (h.alone hm hn).symm
  · intro m id' t hm
    rcases hback hm with ⟨_, _, hx⟩ | ⟨_, hm⟩
    · cases hx
      exact hdown
    · by_cases hsame : t = thread
      · exact lookup_shutdown.mpr (.inl ⟨hsame, rfl, false, h.stopped hm⟩)
      · exact lookup_shutdown.mpr (.inr ⟨hsame, h.stopped hm⟩)
  · intro m m' id' role' id'' t hm hm'
    rcases hback hm with ⟨_, _, hx⟩ | ⟨hmn, hm⟩
    · cases hx
    · rcases hback hm' with ⟨hmn', _, hx⟩ | ⟨_, hm'⟩
      · cases hx
        exact hmn' ▸ h.alone hm hn
      · exact h.alone hm hm'
  · intro id' t ht
    exact h.away (hcarried ht)
  · intro id' t ht
    rcases lookup_shutdown.mp ht with ⟨_, hrun, _⟩ | ⟨hsame, ht⟩
    · cases hrun
    · rcases h.placed ht with hid | ⟨m, hm⟩
      · exact .inl hid
      · have hother : ∀ role', held n ≠ some ⟨role', id', t⟩ := by
          rw [hn]
          rintro role' ⟨⟩
          exact hsame rfl
        exact .inr ⟨m, hm.imp (fun hm => held_update_of_ne hm (hother _))
          (fun hm => held_update_of_ne hm (hother _))⟩

theorem Placement.finds (h : Placement sessions threads held) (hn : held n = none)
    (hid : sessions.lookup id = some thread) :
    Placement sessions threads (Function.update held n (some ⟨.stopping, id, thread⟩)) := by
  have hkeep : ∀ {m x}, held m = some x →
      Function.update held n (some ⟨.stopping, id, thread⟩) m = some x := fun hm =>
    held_update_of_ne hm (by rw [hn]; nofun)
  constructor
  · intro id' t ht
    rcases h.entry ht with hrun | ⟨hdead, m, hm⟩
    · exact .inl hrun
    · exact .inr ⟨hdead, m, hkeep hm⟩
  · intro m role id' t hm
    exact h.entry_held_known hid hm
  · intro m id' t hm
    exact h.opened (held_update_role hm nofun)
  · intro m id' t hm
    exact h.stopped (held_update_role hm nofun)
  · intro m m' id' role id'' t hm hm'
    exact h.entry_held_alone hid (held_update_role hm nofun) hm'
  · rintro id' t ⟨m, hm | hm⟩ <;> rcases held_update hm with ⟨_, hx⟩ | ⟨_, hm⟩
    · cases hx
    · exact h.away ⟨m, .inl hm⟩
    · cases hx
    · exact h.away ⟨m, .inr hm⟩
  · intro id' t ht
    rcases h.placed ht with hid | ⟨m, hm⟩
    · exact .inl hid
    · exact .inr ⟨m, hm.imp hkeep hkeep⟩

theorem Placement.removes (h : Placement sessions threads held)
    (hn : held n = some ⟨.stopped, id, thread⟩)
    (hcheck : ∀ {t}, sessions.lookup id = some t →
      t = thread ∨ threads.lookup t ≠ some ⟨id, true⟩) :
    Placement (sessions.erase id) threads (Function.update held n none) := by
  have hback : ∀ {m x}, Function.update held n none m = some x → held m = some x := by
    intro m x hm
    rcases held_update hm with ⟨_, hx⟩ | ⟨_, hm⟩
    · cases hx
    · exact hm
  constructor
  · intro id' t ht
    obtain ⟨hne, ht⟩ := Dict.lookup_erase_eq_some.mp ht
    rcases h.entry ht with hrun | ⟨hdead, m, hm⟩
    · exact .inl hrun
    · refine .inr ⟨hdead, m, held_update_of_ne hm ?_⟩
      rw [hn]
      rintro ⟨⟩
      exact hne rfl
  · intro m role id' t hm
    exact h.known (hback hm)
  · intro m id' t hm
    exact h.opened (hback hm)
  · intro m id' t hm
    exact h.stopped (hback hm)
  · intro m m' id' role id'' t hm hm'
    exact h.alone (hback hm) (hback hm')
  · rintro id' t ⟨m, hm⟩ ht
    exact h.away ⟨m, hm.imp hback hback⟩ (Dict.lookup_erase_eq_some.mp ht).2
  · intro id' t ht
    rcases h.placed ht with hid | ⟨m, hm⟩
    · by_cases hsame : id' = id
      · subst hsame
        rcases hcheck hid with rfl | hdead
        · rw [h.stopped hn] at ht
          cases ht
        · exact absurd ht hdead
      · exact .inl (Dict.lookup_erase_eq_some.mpr ⟨hsame, hid⟩)
    · exact .inr ⟨m, hm.imp (fun hm => held_update_of_ne hm (by rw [hn]; nofun))
        (fun hm => held_update_of_ne hm (by rw [hn]; nofun))⟩

theorem Placement.takes (h : Placement sessions threads held) (hn : held n = none)
    (hid : sessions.lookup id = some thread) :
    Placement (sessions.erase id) threads
      (Function.update held n (some ⟨.taken, id, thread⟩)) := by
  have hkeep : ∀ {m x}, held m = some x →
      Function.update held n (some ⟨.taken, id, thread⟩) m = some x := fun hm =>
    held_update_of_ne hm (by rw [hn]; nofun)
  constructor
  · intro id' t ht
    obtain ⟨_, ht⟩ := Dict.lookup_erase_eq_some.mp ht
    rcases h.entry ht with hrun | ⟨hdead, m, hm⟩
    · exact .inl hrun
    · exact .inr ⟨hdead, m, hkeep hm⟩
  · intro m role id' t hm
    exact h.entry_held_known hid hm
  · intro m id' t hm
    exact h.opened (held_update_role hm nofun)
  · intro m id' t hm
    exact h.stopped (held_update_role hm nofun)
  · intro m m' id' role id'' t hm hm'
    exact h.entry_held_alone hid (held_update_role hm nofun) hm'
  · rintro id' t ⟨m, hm | hm⟩ ht <;> obtain ⟨hne, ht⟩ := Dict.lookup_erase_eq_some.mp ht <;>
      rcases held_update hm with ⟨_, hx⟩ | ⟨_, hm⟩
    · cases hx
    · exact h.away ⟨m, .inl hm⟩ ht
    · cases hx
      exact hne rfl
    · exact h.away ⟨m, .inr hm⟩ ht
  · intro id' t ht
    rcases h.placed ht with hin | ⟨m, hm⟩
    · by_cases hsame : id' = id
      · subst hsame
        rw [hid] at hin
        cases hin
        exact .inr ⟨n, .inr (Function.update_self ..)⟩
      · exact .inl (Dict.lookup_erase_eq_some.mpr ⟨hsame, hin⟩)
    · exact .inr ⟨m, hm.imp hkeep hkeep⟩

end Keep

end CodexAcp.Agent
