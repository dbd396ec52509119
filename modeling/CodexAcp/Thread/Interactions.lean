import CodexAcp.Thread.StepEffect

/-!
# What is filed after a step

The requests filed in the submissions of a desk, after each of the operations an
effect applies to it. A request is filed by `request`, taken out by a response,
dropped with its submission's others (`finish`, `clear`, `collect`), and left
alone by the rest.
-/

namespace CodexAcp.Thread

open CodexAcp.Lib CodexAcp.Protocol CodexAcp.Boundary

theorem length_request (d : Desk) (sid : String) (p : PromptState)
    (request : PermissionInteractionRequest) :
    (d.request sid p request).tasks.length = d.tasks.length + 1 := by
  unfold Desk.request
  simp

section Interactions

variable {d d' : Desk} {id : String} {p q : PromptState}

/-- A new submission, with nothing filed, under a free id. -/
theorem interaction_insert (hsubs : d'.submissions = d.submissions.insert id q)
    (hfree : d.submissions.lookup id = none) (hq : q.permissionInteractions = ∅)
    (sid key : String) : d'.interaction sid key = d.interaction sid key := by
  unfold Desk.interaction
  rw [hsubs]
  by_cases h : sid = id
  · subst h
    rw [AList.lookup_insert, hfree, Option.bind_some, hq]
    rfl
  · rw [AList.lookup_insert_ne h]

/-- A submission replaced by one with the same requests. -/
theorem interaction_set (hsubs : d'.submissions = d.submissions.set id q)
    (hp : d.submissions.lookup id = some p)
    (hq : q.permissionInteractions = p.permissionInteractions) (sid key : String) :
    d'.interaction sid key = d.interaction sid key := by
  unfold Desk.interaction
  rw [hsubs]
  by_cases h : sid = id
  · subst h
    rw [Dict.lookup_set_self hp, hp, Option.bind_some, Option.bind_some, hq]
  · rw [Dict.lookup_set_of_ne h]

theorem interaction_ensure (id sid key : String) :
    (d.ensure id).interaction sid key = d.interaction sid key := by
  cases hp : d.submissions.lookup id with
  | none => exact interaction_insert (by unfold Desk.ensure; rw [hp]) hp rfl sid key
  | some p =>
    unfold Desk.interaction Desk.ensure
    rw [hp]

/-- Of a submission whose requests are dropped, none stays; the others keep theirs. -/
theorem interaction_drop (hsubs : d'.submissions = d.submissions.set id q)
    (hq : q.permissionInteractions = ∅) (sid key : String) :
    d'.interaction sid key = if sid = id then none else d.interaction sid key := by
  unfold Desk.interaction
  rw [hsubs]
  by_cases h : sid = id
  · subst h
    rw [if_pos rfl]
    cases hp : d.submissions.lookup sid with
    | none =>
      rw [Dict.set, Dict.lookup_mapValues, hp]
      rfl
    | some p =>
      rw [Dict.lookup_set_self hp, Option.bind_some, hq]
      rfl
  · rw [if_neg h, Dict.lookup_set_of_ne h]

theorem interaction_clear (sid key : String) : d.clear.interaction sid key = none := by
  unfold Desk.interaction Desk.clear
  rw [Dict.lookup_mapValues]
  cases d.submissions.lookup sid <;> rfl

/-- A request put to the user is filed under its key; the rest stays. -/
theorem interaction_request {request : PermissionInteractionRequest}
    (hsubs : d'.submissions = (d.request id p request).submissions)
    (hp : d.submissions.lookup id = some p) (sid key : String) (i : PendingPermissionInteraction) :
    d'.interaction sid key = some i ↔
      (sid = id ∧ key = request.requestKey ∧ i = ⟨request.pendingRequest, d.tasks.length⟩) ∨
        (¬ (sid = id ∧ key = request.requestKey) ∧ d.interaction sid key = some i) := by
  unfold Desk.interaction
  rw [hsubs]
  unfold Desk.request
  dsimp only
  by_cases hsid : sid = id
  · subst hsid
    rw [Dict.lookup_set_self hp, hp, Option.bind_some, Option.bind_some,
      Dict.lookup_insert_eq_some]
    by_cases hkey : key = request.requestKey
    · simp [hkey, eq_comm]
    · simp [hkey]
  · rw [Dict.lookup_set_of_ne hsid]
    simp [hsid]

/-- A request taken out; the rest stays. -/
theorem interaction_erase {requestKey : String}
    (hsubs : d'.submissions = d.submissions.set id
      { p with permissionInteractions := p.permissionInteractions.erase requestKey })
    (hp : d.submissions.lookup id = some p) (sid key : String) (i : PendingPermissionInteraction) :
    d'.interaction sid key = some i ↔
      ¬ (sid = id ∧ key = requestKey) ∧ d.interaction sid key = some i := by
  unfold Desk.interaction
  rw [hsubs]
  by_cases hsid : sid = id
  · subst hsid
    rw [Dict.lookup_set_self hp, hp, Option.bind_some, Option.bind_some, Dict.lookup_erase_eq_some]
    simp
  · rw [Dict.lookup_set_of_ne hsid]
    simp [hsid]

/-- Collection keeps what is filed in the submissions it keeps. -/
theorem interaction_collect (sid key : String) (i : PendingPermissionInteraction) :
    d.collect.interaction sid key = some i ↔
      ((d.collect).submissions.lookup sid).isSome ∧ d.interaction sid key = some i := by
  unfold Desk.interaction Desk.collect
  rw [Option.bind_eq_some_iff, Option.bind_eq_some_iff]
  constructor
  · rintro ⟨p, hp, hi⟩
    exact ⟨by dsimp only; rw [hp]; rfl, p, (Dict.lookup_retain_eq_some.mp hp).1, hi⟩
  · rintro ⟨hkept, p, hp, hi⟩
    obtain ⟨p', hp'⟩ := Option.isSome_iff_exists.mp hkept
    have heq := (Dict.lookup_retain_eq_some.mp hp').1
    rw [hp] at heq
    cases heq
    exact ⟨p, hp', hi⟩

theorem settle_interaction (event : Event) (d : Desk) (sid key : String) :
    (d.settle event).interaction sid key = d.interaction sid key := by
  unfold Desk.interaction
  rw [Desk.settle_submissions]

end Interactions

/-- The id of a newly accepted op is the id of no submission held. -/
theorem lookup_of_freshIds {r r' : Running} {ops : List (Op × String)} {op : Op} {id : String}
    (hfresh : r.freshIds r' = true)
    (haccepted : r'.actor.desk.accepted = r.actor.desk.accepted ++ ops ++ [(op, id)]) :
    r.actor.desk.submissions.lookup id = none := by
  refine Option.isNone_iff_eq_none.mp (List.all_eq_true.mp hfresh (op, id) ?_)
  rw [show r'.actor.world.accepted = r.actor.world.accepted ++ ops ++ [(op, id)] from haccepted,
    List.append_assoc, List.drop_left]
  exact List.mem_append_right _ (List.mem_singleton.mpr rfl)

end CodexAcp.Thread
