import CodexAcp.Thread.Interactions

/-!
# Who waits for a prompt's result

A caller of a prompt waits for one result. Its waiter is registered with a
submission when the prompt is submitted, or when the prompt answers a question
of a running turn. `WaitersOnce` says that a waiter is registered at one place
at most, and only until it has a result; what a step does to the waiters of a
desk keeps it:

> `waitersOnce_register`, `waitersOnce_answer`, `waitersOnce_shown`,
> `waitersOnce_fewer`.
-/

namespace CodexAcp.Thread

open CodexAcp.Lib CodexAcp.Protocol CodexAcp.Boundary

/-! ## Registered waiters -/

/-- The waiters registered with the submission under an id. -/
def Desk.registered (d : Desk) (id : String) : List WaiterId :=
  ((d.submissions.lookup id).map (·.responses.all)).getD []

/-- The waiters that got a result. -/
def Desk.answered (d : Desk) : List WaiterId := d.results.map (·.1)

section Registered

variable {d d' : Desk} {id : String} {p q : PromptState}

theorem registered_insert (hsubs : d'.submissions = d.submissions.insert id q) (sid : String) :
    d'.registered sid = if sid = id then q.responses.all else d.registered sid := by
  unfold Desk.registered
  rw [hsubs]
  by_cases h : sid = id
  · subst h
    rw [AList.lookup_insert, if_pos rfl]
    rfl
  · rw [AList.lookup_insert_ne h, if_neg h]

theorem registered_set (hsubs : d'.submissions = d.submissions.set id q)
    (hp : d.submissions.lookup id = some p) (sid : String) :
    d'.registered sid = if sid = id then q.responses.all else d.registered sid := by
  unfold Desk.registered
  rw [hsubs]
  by_cases h : sid = id
  · subst h
    rw [Dict.lookup_set_self hp, if_pos rfl]
    rfl
  · rw [Dict.lookup_set_of_ne h, if_neg h]

theorem registered_of_lookup (hp : d.submissions.lookup id = some p) :
    d.registered id = p.responses.all := by
  unfold Desk.registered
  rw [hp]
  rfl

/-- A submission made to be there has no waiters. -/
theorem registered_ensure (id sid : String) : (d.ensure id).registered sid = d.registered sid := by
  cases hp : d.submissions.lookup id with
  | some p =>
    unfold Desk.registered Desk.ensure
    rw [hp]
  | none =>
    rw [registered_insert (q := .forReplay id) (by unfold Desk.ensure; rw [hp])]
    split
    next h =>
      subst h
      unfold Desk.registered
      rw [hp]
      rfl
    next => rfl

theorem registered_clear (sid : String) : d.clear.registered sid = d.registered sid := by
  unfold Desk.registered Desk.clear
  rw [Dict.lookup_mapValues]
  cases d.submissions.lookup sid <;> rfl

/-- Collection drops no open waiter. -/
theorem registered_collect (sid : String) :
    d.collect.registered sid = d.registered sid ∨
      (d.collect.registered sid = [] ∧ ∀ w ∈ d.registered sid, w ∈ d.closed) := by
  unfold Desk.registered Desk.collect
  dsimp only
  cases hp : d.submissions.lookup sid with
  | none =>
    cases hq : (d.submissions.retain fun id p => (p.responses.all.any fun waiter =>
        waiter ∉ d.closed) || d.pendingSubmission = some id).lookup sid with
    | none => exact .inl rfl
    | some q =>
      rw [Dict.lookup_retain_eq_some, hp] at hq
      cases hq.1
  | some p =>
    by_cases hkeep : ((p.responses.all.any fun waiter => waiter ∉ d.closed) ||
        d.pendingSubmission = some sid) = true
    · rw [Dict.lookup_retain_eq_some.mpr ⟨hp, hkeep⟩]
      exact .inl rfl
    · cases hq : (d.submissions.retain fun id p => (p.responses.all.any fun waiter =>
          waiter ∉ d.closed) || d.pendingSubmission = some id).lookup sid with
      | some q =>
        have hretained := Dict.lookup_retain_eq_some.mp hq
        rw [hp] at hretained
        cases hretained.1
        exact absurd hretained.2 hkeep
      | none =>
        refine .inr ⟨rfl, fun w hw => ?_⟩
        by_contra hopen
        apply hkeep
        rw [Bool.or_eq_true]
        exact .inl (List.any_eq_true.mpr ⟨w, hw, decide_eq_true hopen⟩)

end Registered

/-! ## The invariant -/

structure WaitersOnce (d : Desk) : Prop where
  registered_lt : ∀ id, ∀ w ∈ d.registered id, w < d.waiters
  answered_lt : ∀ w ∈ d.answered, w < d.waiters
  nodup : ∀ id, (d.registered id).Nodup
  apart : ∀ id id' w, w ∈ d.registered id → w ∈ d.registered id' → id = id'
  unanswered : ∀ id, ∀ w ∈ d.registered id, w ∉ d.answered
  once : d.answered.Nodup

theorem waitersOnce_start (config : Config) (models : ModelsManager) :
    WaitersOnce (Running.start config models).actor.desk where
  registered_lt id w hw := by cases hw
  answered_lt w hw := by cases hw
  nodup id := List.nodup_nil
  apart id id' w hw := by cases hw
  unanswered id w hw := by cases hw
  once := List.nodup_nil

/-- Waiters are dropped, or handed out and not registered. -/
theorem waitersOnce_fewer {d d' : Desk} (hd : WaitersOnce d)
    (hregistered : ∀ id, d'.registered id = d.registered id ∨ d'.registered id = [])
    (hresults : d'.results = d.results) (hwaiters : d.waiters ≤ d'.waiters) : WaitersOnce d' := by
  have hmem : ∀ id w, w ∈ d'.registered id → w ∈ d.registered id := by
    intro id w hw
    rcases hregistered id with h | h
    · rwa [h] at hw
    · rw [h] at hw
      cases hw
  have hanswered : d'.answered = d.answered := by rw [Desk.answered, hresults]; rfl
  constructor
  · exact fun id w hw => Nat.lt_of_lt_of_le (hd.registered_lt id w (hmem id w hw)) hwaiters
  · rw [hanswered]
    exact fun w hw => Nat.lt_of_lt_of_le (hd.answered_lt w hw) hwaiters
  · intro id
    rcases hregistered id with h | h <;> rw [h]
    · exact hd.nodup id
    · exact List.nodup_nil
  · exact fun id id' w hw hw' => hd.apart id id' w (hmem id w hw) (hmem id' w hw')
  · rw [hanswered]
    exact fun id w hw => hd.unanswered id w (hmem id w hw)
  · rw [hanswered]
    exact hd.once

/-- The next waiter is registered with a submission. -/
theorem waitersOnce_register {d d' : Desk} {sid : String} (hd : WaitersOnce d)
    (hregistered : ∀ id, d'.registered id =
      if id = sid then d.registered id ++ [d.waiters] else d.registered id)
    (hresults : d'.results = d.results) (hwaiters : d'.waiters = d.waiters + 1) :
    WaitersOnce d' := by
  have hanswered : d'.answered = d.answered := by rw [Desk.answered, hresults]; rfl
  have hmem : ∀ id w, w ∈ d'.registered id → w ∈ d.registered id ∨ (w = d.waiters ∧ id = sid) := by
    intro id w hw
    rw [hregistered] at hw
    split at hw
    next h =>
      rcases List.mem_append.mp hw with hw | hw
      · exact .inl hw
      · exact .inr ⟨List.mem_singleton.mp hw, h⟩
    next => exact .inl hw
  -- Waiters are numbered as they are handed out, so the next one is nowhere yet.
  have hnew : ∀ id, d.waiters ∉ d.registered id :=
    fun id hw => Nat.lt_irrefl _ (hd.registered_lt id _ hw)
  constructor
  · intro id w hw
    rw [hwaiters]
    rcases hmem id w hw with hw | ⟨rfl, _⟩
    · exact Nat.lt_succ_of_lt (hd.registered_lt id w hw)
    · exact Nat.lt_succ_self _
  · rw [hanswered, hwaiters]
    exact fun w hw => Nat.lt_succ_of_lt (hd.answered_lt w hw)
  · intro id
    rw [hregistered]
    split
    · refine List.nodup_append.mpr ⟨hd.nodup id, by simp, ?_⟩
      intro w hw w' hw' heq
      rw [heq, List.mem_singleton.mp hw'] at hw
      exact hnew id hw
    · exact hd.nodup id
  · intro id id' w hw hw'
    rcases hmem id w hw with hw | ⟨rfl, rfl⟩
    · rcases hmem id' w hw' with hw' | ⟨rfl, _⟩
      · exact hd.apart id id' w hw hw'
      · exact absurd hw (hnew id)
    · rcases hmem id' _ hw' with hw' | ⟨_, rfl⟩
      · exact absurd hw' (hnew id')
      · rfl
  · intro id w hw
    rw [hanswered]
    rcases hmem id w hw with hw | ⟨rfl, _⟩
    · exact hd.unanswered id w hw
    · exact fun hw => Nat.lt_irrefl _ (hd.answered_lt _ hw)
  · rw [hanswered]
    exact hd.once

theorem answered_delivered {d d' : Desk} {closed ws : List WaiterId} {result : PromptResult}
    (hresults : d'.results = d.results ++ delivered closed ws result) :
    d'.answered = d.answered ++ ws.filter (· ∉ closed) := by
  unfold Desk.answered delivered at *
  rw [hresults, List.map_append, List.map_map]
  congr 1
  exact List.map_id _

/-- The waiters of a submission are answered, and none of them stays. -/
theorem waitersOnce_answer {d d' : Desk} {sid : String} {result : PromptResult} (hd : WaitersOnce d)
    (hregistered : ∀ id, d'.registered id = if id = sid then [] else d.registered id)
    (hresults : d'.results = d.results ++ delivered d.closed (d.registered sid) result)
    (hwaiters : d'.waiters = d.waiters) : WaitersOnce d' := by
  have hanswered := answered_delivered hresults
  have hmem : ∀ id w, w ∈ d'.registered id → id ≠ sid ∧ w ∈ d.registered id := by
    intro id w hw
    rw [hregistered] at hw
    split at hw
    next => cases hw
    next h => exact ⟨h, hw⟩
  constructor
  · rw [hwaiters]
    exact fun id w hw => hd.registered_lt id w (hmem id w hw).2
  · rw [hanswered, hwaiters]
    intro w hw
    rcases List.mem_append.mp hw with hw | hw
    · exact hd.answered_lt w hw
    · exact hd.registered_lt sid w (List.mem_filter.mp hw).1
  · intro id
    rw [hregistered]
    split
    · exact List.nodup_nil
    · exact hd.nodup id
  · exact fun id id' w hw hw' => hd.apart id id' w (hmem id w hw).2 (hmem id' w hw').2
  · rw [hanswered]
    intro id w hw hw'
    obtain ⟨hne, hw⟩ := hmem id w hw
    rcases List.mem_append.mp hw' with hw' | hw'
    · exact hd.unanswered id w hw hw'
    · exact hne (hd.apart id sid w hw (List.mem_filter.mp hw').1)
  · rw [hanswered]
    refine List.nodup_append.mpr ⟨hd.once, (hd.nodup sid).filter _, ?_⟩
    intro w hw w' hw' heq
    rw [heq] at hw
    exact hd.unanswered sid w' (List.mem_filter.mp hw').1 hw

/-- The next waiter is answered on the spot. -/
theorem waitersOnce_shown {d d' : Desk} {result : PromptResult} (hd : WaitersOnce d)
    (hregistered : ∀ id, d'.registered id = d.registered id)
    (hresults : d'.results = d.results ++ delivered d.closed [d.waiters] result)
    (hwaiters : d'.waiters = d.waiters + 1) : WaitersOnce d' := by
  have hanswered := answered_delivered hresults
  constructor
  · rw [hwaiters]
    exact fun id w hw => Nat.lt_succ_of_lt (hd.registered_lt id w (by rwa [hregistered] at hw))
  · rw [hanswered, hwaiters]
    intro w hw
    rcases List.mem_append.mp hw with hw | hw
    · exact Nat.lt_succ_of_lt (hd.answered_lt w hw)
    · rw [List.mem_singleton.mp (List.mem_filter.mp hw).1]
      exact Nat.lt_succ_self _
  · exact fun id => by rw [hregistered]; exact hd.nodup id
  · intro id id' w hw hw'
    rw [hregistered] at hw hw'
    exact hd.apart id id' w hw hw'
  · rw [hanswered]
    intro id w hw hw'
    rw [hregistered] at hw
    rcases List.mem_append.mp hw' with hw' | hw'
    · exact hd.unanswered id w hw hw'
    · rw [List.mem_singleton.mp (List.mem_filter.mp hw').1] at hw
      exact Nat.lt_irrefl _ (hd.registered_lt id _ hw)
  · rw [hanswered]
    refine List.nodup_append.mpr ⟨hd.once, (List.nodup_singleton _).filter _, ?_⟩
    intro w hw w' hw' heq
    rw [heq, List.mem_singleton.mp (List.mem_filter.mp hw').1] at hw
    exact Nat.lt_irrefl _ (hd.answered_lt _ hw)

end CodexAcp.Thread
