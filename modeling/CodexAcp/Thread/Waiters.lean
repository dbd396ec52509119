import CodexAcp.Thread.WaitersOnce

/-!
# Prompt waiters are answered once

A caller of a prompt waits for one result. Its waiter is registered with a
submission when the prompt is submitted, or when the prompt answers a question
of a running turn, and every event that ends a turn sends one result to the
waiters of its submission. An abort that names no turn ends none: the live
router ignores it, and the waiters stay.

> `waiters_answered`: on every run on which Codex gives out fresh ids, at every
> step an open waiter stays registered where it is or gets a result, the end of
> a turn answers all the waiters of its submission, and collection keeps the
> submission whose question is pending; at the end no waiter has two results,
> and one has exactly one if its turn ended since.
> `abort_without_turn`: an abort without a turn leaves its waiters waiting.

Nothing is assumed about the results themselves. The invariant is `WaitersOnce`:
a waiter is registered at one place at most, and only until it has a result.
-/

namespace CodexAcp.Thread

open CodexAcp.Lib CodexAcp.Protocol CodexAcp.Boundary

/-! ## Steps -/

/-- What a step does to the waiters. -/
structure WaiterStep (d : Desk) (l : Label) (d' : Desk) : Prop where
  /-- An open waiter stays registered where it is, or has a result. -/
  kept : ∀ id, ∀ w ∈ d.registered id, w ∉ d'.closed → w ∈ d'.registered id ∨ w ∈ d'.answered
  /-- The end of a turn sends its result to every open waiter of the submission,
  and none stays registered. -/
  ended : ∀ event result, l = .event event → terminalResult event.msg = some result →
    (∀ w ∈ d.registered event.id, w ∉ d.closed → (w, result) ∈ d'.results) ∧
      d'.registered event.id = []
  /-- The submission whose question is pending stays in the map. -/
  pending : ∀ sid, d.pendingSubmission = some sid → (d.submissions.lookup sid).isSome →
    (d'.submissions.lookup sid).isSome
  /-- A result is not taken back. -/
  answered : ∀ w ∈ d.answered, w ∈ d'.answered
  /-- A closed receiver stays closed. -/
  closed : ∀ w ∈ d.closed, w ∈ d'.closed

/-- A step that keeps every waiter, and is the end of a turn only where none waits. -/
theorem waiterStep_of_registered {d d' : Desk} {l : Label}
    (hregistered : ∀ id, ∀ w ∈ d.registered id, w ∈ d'.registered id)
    (hended : ∀ event, l = .event event → (terminalResult event.msg).isSome →
      d.registered event.id = [] ∧ d'.registered event.id = [])
    (hheld : ∀ sid, (d.submissions.lookup sid).isSome → (d'.submissions.lookup sid).isSome)
    (hresults : ∃ more, d'.results = d.results ++ more)
    (hclosed : ∀ w ∈ d.closed, w ∈ d'.closed) : WaiterStep d l d' where
  kept id w hw _ := .inl (hregistered id w hw)
  ended event result hl hresult := by
    obtain ⟨hnone, hnone'⟩ := hended event hl (by rw [hresult]; rfl)
    refine ⟨fun w hw => ?_, hnone'⟩
    rw [hnone] at hw
    cases hw
  pending sid _ hsid := hheld sid hsid
  answered w hw := by
    obtain ⟨more, hmore⟩ := hresults
    rw [Desk.answered, hmore, List.map_append]
    exact List.mem_append_left _ hw
  closed := hclosed

/-- The waiters of one submission are answered. -/
theorem waiterStep_of_answer {d d' : Desk} {l : Label} {sid : String} {result : PromptResult}
    (hregistered : ∀ id, d'.registered id = if id = sid then [] else d.registered id)
    (hresults : d'.results = d.results ++ delivered d.closed (d.registered sid) result)
    (hended : ∀ event result', l = .event event → terminalResult event.msg = some result' →
      event.id = sid ∧ result' = result)
    (hheld : ∀ sid, (d.submissions.lookup sid).isSome → (d'.submissions.lookup sid).isSome)
    (hclosed : d'.closed = d.closed) : WaiterStep d l d' := by
  have hanswered := answered_delivered hresults
  constructor
  · intro id w hw hopen
    by_cases hid : id = sid
    · subst hid
      rw [hclosed] at hopen
      rw [hanswered]
      exact .inr (List.mem_append_right _ (List.mem_filter.mpr ⟨hw, decide_eq_true hopen⟩))
    · rw [hregistered, if_neg hid]
      exact .inl hw
  · intro event result' hl hresult
    obtain ⟨rfl, rfl⟩ := hended event result' hl hresult
    refine ⟨fun w hw hopen => ?_, by rw [hregistered, if_pos rfl]⟩
    rw [hresults]
    refine List.mem_append_right _ (List.mem_map.mpr ⟨w, ?_, rfl⟩)
    exact List.mem_filter.mpr ⟨hw, decide_eq_true hopen⟩
  · exact fun sid _ hsid => hheld sid hsid
  · rw [hanswered]
    exact fun w hw => List.mem_append_left _ hw
  · rw [hclosed]
    exact fun w hw => hw

/-- No waiter moved. -/
theorem waiters_same {d d' : Desk} {l : Label} (hd : WaitersOnce d)
    (hregistered : ∀ id, d'.registered id = d.registered id)
    (hended : ∀ event, l = .event event → (terminalResult event.msg).isSome →
      d.registered event.id = [])
    (hheld : ∀ sid, (d.submissions.lookup sid).isSome → (d'.submissions.lookup sid).isSome)
    (hresults : d'.results = d.results) (hwaiters : d.waiters ≤ d'.waiters)
    (hclosed : ∀ w ∈ d.closed, w ∈ d'.closed) : WaitersOnce d' ∧ WaiterStep d l d' := by
  refine ⟨waitersOnce_fewer hd (fun id => .inl (hregistered id)) hresults hwaiters, ?_⟩
  refine waiterStep_of_registered (fun id w hw => by rwa [hregistered]) ?_ hheld
    ⟨[], by rw [hresults, List.append_nil]⟩ hclosed
  intro event hl hterminal
  have hnone := hended event hl hterminal
  exact ⟨hnone, by rw [hregistered, hnone]⟩

section Held

variable {s : Dict String PromptState} {id sid : String} {q : PromptState}

theorem isSome_lookup_set : ((s.set id q).lookup sid).isSome = (s.lookup sid).isSome := by
  rw [Dict.set, Dict.lookup_mapValues, Option.isSome_map]

theorem isSome_lookup_insert (h : (s.lookup sid).isSome) :
    (AList.lookup sid (s.insert id q)).isSome := by
  by_cases hsid : sid = id
  · subst hsid
    rw [AList.lookup_insert]
    rfl
  · rwa [AList.lookup_insert_ne hsid]

theorem isSome_lookup_ensure {d : Desk} (h : (d.submissions.lookup sid).isSome) :
    ((d.ensure id).submissions.lookup sid).isSome := by
  unfold Desk.ensure
  dsimp only
  split
  · exact h
  · exact isSome_lookup_insert h

end Held

theorem settle_registered (event : Event) (d : Desk) (id : String) :
    (d.settle event).registered id = d.registered id := by
  unfold Desk.registered
  rw [Desk.settle_submissions]

/-- An event that moves no waiter and is at most the end of a turn nobody waits for. -/
theorem waiters_settled {d : Desk} {l : Label} (hd : WaitersOnce d) (event : Event)
    (hended : ∀ event, l = .event event → (terminalResult event.msg).isSome →
      d.registered event.id = []) :
    WaitersOnce (d.settle event) ∧ WaiterStep d l (d.settle event) := by
  refine waiters_same hd (settle_registered event d) hended (fun sid hsid => ?_)
    (Desk.settle_results event d) (Nat.le_of_eq (Desk.settle_waiters event d).symm) ?_
  · rwa [Desk.settle_submissions]
  · rw [Desk.settle_closed]
    exact fun _ h => h

/-- The waiters of a submission are answered. -/
theorem waiters_answer {d d' : Desk} {l : Label} {sid : String} {p q : PromptState}
    {result : PromptResult} (hd : WaitersOnce d) (hp : d.submissions.lookup sid = some p)
    (hsubs : d'.submissions = d.submissions.set sid q) (hq : q.responses = ⟨none, []⟩)
    (hresults : d'.results = d.results ++ delivered d.closed p.responses.all result)
    (hwaiters : d'.waiters = d.waiters) (hclosed : d'.closed = d.closed)
    (hended : ∀ event result', l = .event event → terminalResult event.msg = some result' →
      event.id = sid ∧ result' = result) : WaitersOnce d' ∧ WaiterStep d l d' := by
  have hregistered : ∀ id, d'.registered id = if id = sid then [] else d.registered id := by
    intro id
    rw [registered_set hsubs hp, hq]
    rfl
  rw [← registered_of_lookup hp] at hresults
  refine ⟨waitersOnce_answer hd hregistered hresults hwaiters,
    waiterStep_of_answer hregistered hresults hended (fun id hid => ?_) hclosed⟩
  rwa [hsubs, isSome_lookup_set]

/-- A waiter is registered with a submission. -/
theorem waiters_registered {d d' : Desk} {m : ThreadMessage} (sid : String) (hd : WaitersOnce d)
    (hregistered : ∀ id, d'.registered id =
      if id = sid then d.registered id ++ [d.waiters] else d.registered id)
    (hheld : ∀ sid, (d.submissions.lookup sid).isSome → (d'.submissions.lookup sid).isSome)
    (hresults : d'.results = d.results) (hwaiters : d'.waiters = d.waiters + 1)
    (hclosed : d'.closed = d.closed) : WaitersOnce d' ∧ WaiterStep d (.message m) d' := by
  refine ⟨waitersOnce_register hd hregistered hresults hwaiters, ?_⟩
  refine waiterStep_of_registered (fun id w hw => ?_) (fun event hl => by cases hl) hheld
    ⟨[], by rw [hresults, List.append_nil]⟩ (by rw [hclosed]; exact fun _ h => h)
  rw [hregistered]
  split
  · exact List.mem_append_left _ hw
  · exact hw

/-- A submission changes, but not its waiters. -/
theorem waiters_replaced {d d' : Desk} {l : Label} {id : String} {p q : PromptState}
    (hd : WaitersOnce d) (hp : d.submissions.lookup id = some p)
    (hsubs : d'.submissions = d.submissions.set id q) (hq : q.responses = p.responses)
    (hended : ∀ event, l = .event event → (terminalResult event.msg).isSome →
      d.registered event.id = [])
    (hresults : d'.results = d.results) (hwaiters : d'.waiters = d.waiters)
    (hclosed : d'.closed = d.closed) : WaitersOnce d' ∧ WaiterStep d l d' := by
  refine waiters_same hd (fun sid => ?_) hended (fun sid hsid => ?_) hresults
    (Nat.le_of_eq hwaiters.symm) (by rw [hclosed]; exact fun _ h => h)
  · rw [registered_set hsubs hp]
    split
    next heq => rw [heq, registered_of_lookup hp, hq]
    next => rfl
  · rwa [hsubs, isSome_lookup_set]

/-- The requests of every submission are dropped. -/
theorem waiters_cleared {d d' : Desk} {m : ThreadMessage} (hd : WaitersOnce d)
    (hsubs : d'.submissions = d.clear.submissions) (hresults : d'.results = d.results)
    (hwaiters : d'.waiters = d.waiters) (hclosed : d'.closed = d.closed) :
    WaitersOnce d' ∧ WaiterStep d (.message m) d' := by
  refine waiters_same hd (fun sid => ?_) (fun event hl => by cases hl) (fun sid hsid => ?_) hresults
    (Nat.le_of_eq hwaiters.symm) (by rw [hclosed]; exact fun _ h => h)
  · rw [← registered_clear (d := d) sid]
    unfold Desk.registered
    rw [hsubs]
  · rw [hsubs]
    exact (congrArg Option.isSome (Dict.lookup_mapValues ..)).trans (Option.isSome_map.trans hsid)

/-- **Collection** drops submissions no open waiter is registered with, and
keeps the one whose question is pending. -/
theorem waiters_collect {d : Desk} (hd : WaitersOnce d) :
    WaitersOnce d.collect ∧ WaiterStep d .collect d.collect := by
  refine ⟨waitersOnce_fewer hd (fun id => ?_) rfl (Nat.le_refl _), ?_⟩
  · rcases registered_collect (d := d) id with h | ⟨h, _⟩
    · exact .inl h
    · exact .inr h
  constructor
  · intro id w hw hopen
    rcases registered_collect (d := d) id with h | ⟨_, hclosed⟩
    · rw [h]
      exact .inl hw
    · exact absurd (hclosed w hw) hopen
  · intro event result hl
    cases hl
  · intro sid hpending hheld
    obtain ⟨p, hp⟩ := Option.isSome_iff_exists.mp hheld
    refine Option.isSome_iff_exists.mpr ⟨p, Dict.lookup_retain_eq_some.mpr ⟨hp, ?_⟩⟩
    rw [Bool.or_eq_true]
    exact .inr (decide_eq_true hpending)
  · exact fun w hw => hw
  · exact fun w hw => hw

/-- An event that ends no turn is the end of none. -/
theorem not_terminal {event : Event} {P : Event → Prop} (h : terminalResult event.msg = none) :
    ∀ event', Label.event event = .event event' → (terminalResult event'.msg).isSome → P event' := by
  intro event' hl hterminal
  cases hl
  rw [h] at hterminal
  cases hterminal

theorem waiters_step {codex : Codex} {r r' : Running} {l : Label}
    (hd : WaitersOnce r.actor.desk) (hfresh : r.freshIds r' = true)
    (hstep : r.step codex l = some r') :
    WaitersOnce r'.actor.desk ∧ WaiterStep r.actor.desk l r'.actor.desk := by
  have hmessage : ∀ (m : ThreadMessage) (event : Event), Label.message m = .event event →
      (terminalResult event.msg).isSome → r.actor.desk.registered event.id = [] := by
    intro m event h
    cases h
  cases step_effect hstep with
  | quiet _ h =>
    rw [h]
    exact waiters_same hd (fun _ => rfl) (hmessage _) (fun _ h => h) rfl (Nat.le_add_right ..)
      fun _ h => h
  | idle hl h =>
    rw [h]
    refine waiters_same hd (fun _ => rfl) ?_ (fun _ h => h) rfl (Nat.le_refl _) fun _ h => h
    rcases hl with rfl | rfl | ⟨_, rfl⟩ <;> intro event hl <;> cases hl
  | @opened m ops op id hops hop h =>
    have hid := lookup_of_freshIds hfresh (congrArg Desk.accepted h)
    refine waiters_registered id hd (fun sid => ?_) ?_ (by rw [h]) (by rw [h]) (by rw [h])
    · rw [registered_insert (q := .new id r.actor.desk.waiters) (by rw [h])]
      split
      next heq =>
        rw [heq, Desk.registered, hid]
        rfl
      next => rfl
    · rw [h]
      exact fun sid hsid => isSome_lookup_insert hsid
  | shown _ _ _ h =>
    rw [h]
    refine ⟨waitersOnce_shown hd (fun _ => rfl) rfl rfl, ?_⟩
    exact waiterStep_of_registered (fun _ _ hw => hw) (fun event hl => by cases hl)
      (fun _ h => h) ⟨_, rfl⟩ fun _ h => h
  | @answered m sid id op p hpending hop hp h =>
    have hensured : r.actor.desk.registered sid = p.responses.all := by
      rw [← registered_ensure sid sid, registered_of_lookup hp]
    refine waiters_registered sid hd (fun sid' => ?_) ?_ (by rw [h]) (by rw [h])
      (by rw [h])
    · rw [registered_set (d := r.actor.desk.ensure sid) (q := p.addResponseTx r.actor.desk.waiters)
        (by rw [h]) hp, registered_ensure]
      split
      next heq =>
        rw [heq, hensured]
        exact (List.append_assoc ..).symm
      next => rfl
    · rw [h]
      intro sid' hsid'
      rw [isSome_lookup_set]
      exact isSome_lookup_ensure hsid'
  | answerRefused _ h =>
    rw [h]
    exact waiters_same hd (registered_ensure _) (hmessage _) (fun _ => isSome_lookup_ensure) rfl
      (Nat.le_add_right ..) fun _ h => h
  | cancelled _ _ h | cancelRefused _ _ h =>
    rw [h]
    exact waiters_cleared hd rfl rfl rfl rfl
  | replayed h =>
    rw [h]
    exact waiters_same hd (fun _ => rfl) (hmessage _) (fun _ h => h) rfl (Nat.le_refl _)
      fun _ h => h
  | unresolved _ _ h =>
    rw [h]
    exact waiters_same hd (fun _ => rfl) (fun event hl => by cases hl) (fun _ h => h) rfl
      (Nat.le_refl _) fun _ h => h
  | @resolved n message rest p i response id hqueue hp hi hresponse hsubmit h =>
    rw [h]
    exact waiters_replaced hd hp rfl rfl (fun event hl => by cases hl) rfl rfl rfl
  -- The prompt ends with an error although its turn does not.
  | @resolutionFailed n message rest p i err hqueue hp hi hfailed h =>
    rw [h]
    exact waiters_answer hd hp rfl rfl rfl rfl rfl fun event _ hl => by cases hl
  | registered hask hterminal h =>
    rw [h]
    exact waiters_same hd (fun _ => rfl) (not_terminal hterminal) (fun _ h => h) rfl
      (Nat.le_refl _) fun _ h => h
  | @autoApproved event approval id hprofile happroval hsubmit h =>
    rw [h]
    exact waiters_same hd (fun _ => rfl) (not_terminal (not_terminal_of_autoApproval happroval))
      (fun _ h => h) rfl (Nat.le_refl _) fun _ h => h
  | @autoApprovalRefused event approval err hprofile happroval hsubmit h =>
    rw [h]
    exact waiters_same hd (fun _ => rfl) (not_terminal (not_terminal_of_autoApproval happroval))
      (fun _ h => h) rfl (Nat.le_refl _) fun _ h => h
  -- No submission has the id of the event, so nobody waits there.
  | @unrouted event hroute hp h =>
    rw [h]
    refine waiters_settled hd event ?_
    intro event' hl _
    cases hl
    unfold Desk.registered
    rw [hp]
    rfl
  | @requested event request p hroute hask hp h =>
    have hterminal : terminalResult event.msg = none := not_terminal_of_asked (by
      rw [approvalRequest_target hask]
      rfl)
    rw [h]
    exact waiters_replaced hd hp rfl rfl (not_terminal hterminal) rfl rfl rfl
  | @contentFailed event approval p err hroute hmsg hp hcontent h =>
    rw [h]
    refine waiters_answer hd hp rfl rfl rfl rfl rfl fun event' _ hl hterminal => ?_
    cases hl
    rw [hmsg] at hterminal
    cases hterminal
  | declined hmsg _ _ _ h =>
    rw [h]
    exact waiters_same hd (fun _ => rfl) (not_terminal (by rw [hmsg]; rfl)) (fun _ h => h) rfl
      (Nat.le_refl _) fun _ h => h
  | @declineRefused event elicitation p e err hmsg hunsupported hp hsubmit h =>
    rw [h]
    refine waiters_answer hd hp rfl rfl rfl rfl rfl fun event' _ hl hterminal => ?_
    cases hl
    rw [hmsg] at hterminal
    cases hterminal
  | @finished event result p hresult hp h =>
    rw [h]
    refine waiters_answer hd hp (Desk.settle_submissions ..) rfl (Desk.settle_results ..)
      (Desk.settle_waiters ..) (Desk.settle_closed ..) fun event' _ hl hterminal => ?_
    cases hl
    rw [hresult] at hterminal
    exact ⟨rfl, (Option.some.inj hterminal).symm⟩
  | @passed event hask hterminal h =>
    rw [h]
    exact waiters_settled hd event (not_terminal hterminal)
  | collected h =>
    rw [h]
    exact waiters_collect hd
  | responded _ _ h | sent _ _ h =>
    rw [h]
    exact waiters_same hd (fun _ => rfl) (fun event hl => by cases hl) (fun _ h => h) rfl
      (Nat.le_refl _) fun _ h => h
  | closed _ h =>
    rw [h]
    exact waiters_same hd (fun _ => rfl) (fun event hl => by cases hl) (fun _ h => h) rfl
      (Nat.le_refl _) fun _ h => List.mem_cons_of_mem _ h

/-! ## Runs -/

/-- Receivers closed before a run are closed after it. -/
theorem closed_mono {codex : Codex} {w : WaiterId} (labels : List Label) {r r' : Running}
    (hsteps : Along (Running.step codex)
      (fun r l r' => WaiterStep r.actor.desk l r'.actor.desk) r labels)
    (hrun : exec (Running.step codex) r labels = some r') (hw : w ∈ r.actor.desk.closed) :
    w ∈ r'.actor.desk.closed :=
  exec_invariant (I := fun r : Running => w ∈ r.actor.desk.closed)
    (fun _ _ _ hclosed hstep _ => hstep.closed w hclosed) labels hw hsteps hrun

/-- Along a run, a waiter registered with a submission whose turn ends has a
result at the end, unless its receiver was closed. -/
theorem answered_of_ended {codex : Codex} {id : String} {w : WaiterId} :
    ∀ (labels : List Label) {r r' : Running},
      Along (Running.step codex) (fun r l r' => WaiterStep r.actor.desk l r'.actor.desk) r labels →
      exec (Running.step codex) r labels = some r' → w ∉ r'.actor.desk.closed →
      w ∈ r.actor.desk.registered id ∨ w ∈ r.actor.desk.answered →
      ((∃ event, .event event ∈ labels ∧ event.id = id ∧ (terminalResult event.msg).isSome) ∨
        w ∈ r.actor.desk.answered) →
      w ∈ r'.actor.desk.answered := by
  intro labels
  induction labels with
  | nil =>
    rintro r r' _ hrun _ _ (⟨event, hevent, _⟩ | hanswered)
    · cases hevent
    · cases hrun
      exact hanswered
  | cons l labels ih =>
    intro r r' hsteps hrun hopen hwaits hends
    obtain ⟨m, hstep, hrest⟩ := exec_cons_inv hrun
    rw [along_cons_some hstep] at hsteps
    obtain ⟨hfirst, hsteps⟩ := hsteps
    -- A receiver open at the end was open all along.
    have hopen' : w ∉ m.actor.desk.closed := fun hclosed =>
      hopen (closed_mono labels hsteps hrest hclosed)
    refine ih hsteps hrest hopen ?_ ?_
    · rcases hwaits with hregistered | hanswered
      · exact hfirst.kept id w hregistered hopen'
      · exact .inr (hfirst.answered w hanswered)
    · rcases hends with ⟨event, hevent, hid, hterminal⟩ | hanswered
      · rcases List.mem_cons.mp hevent with rfl | hevent
        · -- The end of its turn is this step.
          rcases hwaits with hregistered | hanswered
          · obtain ⟨result, hresult⟩ := Option.isSome_iff_exists.mp hterminal
            subst hid
            have hsent := (hfirst.ended event result rfl hresult).1 w hregistered fun hclosed =>
              hopen' (hfirst.closed w hclosed)
            exact .inr (List.mem_map.mpr ⟨_, hsent, rfl⟩)
          · exact .inr (hfirst.answered w hanswered)
        · exact .inl ⟨event, hevent, hid, hterminal⟩
      · exact .inr (hfirst.answered w hanswered)

/-- **Waiters.** On every run on which Codex gives out fresh ids, every step is a
`WaiterStep`, no waiter gets two results, and a waiter registered at some point
has exactly one at the end, if the turn of its submission ended since and its
receiver is open. -/
theorem waiters_answered (codex : Codex) (config : Config) (models : ModelsManager)
    (before after : List Label) (r r' : Running)
    (hfresh : Along (Running.step codex) (fun r _ r' => r.freshIds r' = true)
      (.start config models) (before ++ after))
    (hbefore : exec (Running.step codex) (.start config models) before = some r)
    (hafter : exec (Running.step codex) r after = some r') :
    Along (Running.step codex) (fun r l r' => WaiterStep r.actor.desk l r'.actor.desk)
        (.start config models) (before ++ after) ∧
      (r'.actor.world.results.map (·.1)).Nodup ∧
      ∀ id, ∀ w ∈ r.actor.desk.registered id, w ∉ r'.actor.world.closed →
        (∃ event, .event event ∈ after ∧ event.id = id ∧ (terminalResult event.msg).isSome) →
        (r'.actor.world.results.map (·.1)).count w = 1 := by
  have hsteps : Along (Running.step codex)
      (fun r l r' => WaiterStep r.actor.desk l r'.actor.desk)
      (.start config models) (before ++ after) := by
    refine along_of_invariant (I := fun r => WaitersOnce r.actor.desk) ?_ _
      (waitersOnce_start config models) hfresh
    exact fun r l r' hd hC hstep => waiters_step hd hC hstep
  have honce : WaitersOnce r'.actor.desk := by
    refine exec_invariant (I := fun r => WaitersOnce r.actor.desk) ?_ _
      (waitersOnce_start config models) hfresh ((exec_append before after).mpr ⟨r, hbefore, hafter⟩)
    exact fun r l r' hd hC hstep => (waiters_step hd hC hstep).1
  refine ⟨hsteps, honce.once, fun id w hw hopen hends => ?_⟩
  refine List.count_eq_one_of_mem honce.once ?_
  exact answered_of_ended after ((along_append hbefore).mp hsteps).2 hafter hopen (.inl hw)
    (.inl hends)

/-- A prompt whose turn completes: its one waiter has one result. -/
theorem waiters_answered_turnComplete :
    ∃ r', exec (Running.step Codex.sample) (.start Config.sample ModelsManager.sample)
        ([.message (.prompt ⟨[.text "go"]⟩), .collect] ++
          [.noResolution, .event ⟨"submission-0", .turnComplete ⟨"turn"⟩⟩, .collect]) = some r' ∧
      r'.actor.world.results = [(0, .ok .endTurn)] ∧
      (r'.actor.world.results.map (·.1)).count 0 = 1 := by
  refine ⟨_, rfl, rfl, ?_⟩
  refine (waiters_answered Codex.sample Config.sample ModelsManager.sample
    [.message (.prompt ⟨[.text "go"]⟩), .collect]
    [.noResolution, .event ⟨"submission-0", .turnComplete ⟨"turn"⟩⟩, .collect] _ _
    (by decide +kernel) rfl rfl).2.2 "submission-0" 0 (List.mem_singleton.mpr rfl) ?_ ?_
  · exact fun h => by cases h
  · exact ⟨_, List.mem_cons_of_mem _ (List.mem_cons_self ..), rfl, rfl⟩

/-- The events that report the end of a turn, one way or another. -/
def reportsEnd : EventMsg → Bool
  | .turnComplete _ | .turnAborted _ | .error _ | .shutdownComplete => true
  | _ => false

/-- **An abort that names no turn** is not the end of one: the waiter of its
submission stays and gets nothing. -/
theorem abort_without_turn :
    ¬ ∀ (codex : Codex) (config : Config) (models : ModelsManager) (labels : List Label)
        (r r' : Running) (event : Event),
      exec (Running.step codex) (.start config models) labels = some r →
      r.step codex (.event event) = some r' → reportsEnd event.msg = true →
      r'.actor.desk.registered event.id = [] := by
  intro h
  have hempty := h Codex.sample Config.sample ModelsManager.sample
    [.message (.prompt ⟨[.text "go"]⟩), .collect, .noResolution] _ _
    ⟨"submission-0", .turnAborted ⟨none⟩⟩ rfl rfl rfl
  exact absurd (congrArg List.length hempty) (by decide +kernel)

end CodexAcp.Thread
