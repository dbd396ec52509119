import CodexAcp.Thread.LiveTools
import CodexAcp.Thread.WaitersOnce

/-!
# The tools of every submission

In the source a submission holds its tools. `PromptState` leaves them out, since no answer
to a prompt depends on them; here they stand beside the actor, one `LiveTools` for each
submission it holds. They come with the submission, hear the events it is handed, and go
when it is collected.

Beside them stands a history, which the source has no trace of: the events each submission
was handed since it was taken in.

> `submissions_handleEvent`: an event that is routed is handled by the submission of its
> id, and any other changes no submission.
> `continues_iff_of_step`: a submission that is held before and after a step is the same
> one, or one that was taken in under its id; the waiter tells which.
> `running_of_run`: the actor goes on as it does without its tools.
> `tools_of_run`: in every run the tools of a submission are what its history makes of none.
> `held_of_run`: the submissions with a history are those the actor holds.
-/

namespace CodexAcp.Thread

open CodexAcp.Lib CodexAcp.Protocol CodexAcp.Boundary CodexAcp.Boundary.Shown

/-! ## Which submission hears an event -/

/-- An event goes to the submission of its id, if the actor holds it. -/
def ThreadActor.routes (codex : Codex) (event : Event) (a : ThreadActor) : Bool :=
  let plan := planActorEvent event.msg
  if plan.goalSnapshot.any a.state.isCurrentGoal then false
  else
    match plan.action with
    | .registerPendingUserInput _ => false
    | .routeToSubmission _ fullAccessAutoApproval =>
      !(a.maybeAutoApprovePermissionRequest codex fullAccessAutoApproval).1

/-- The actor once it has heard what an event changes for itself. -/
def ThreadActor.heard (event : Event) (a : ThreadActor) : ThreadActor :=
  { a with state := a.state.applyEventUpdates (planActorEvent event.msg).stateUpdates }

section Routes

variable {codex : Codex} {event : Event} {a : ThreadActor}

/-- Whether an approval is needed is said by the settings, which no event changes. -/
theorem maybeAutoApprove_heard (approval : Option ActorAutoApproval) :
    ((a.heard event).maybeAutoApprovePermissionRequest codex approval).1 =
      (a.maybeAutoApprovePermissionRequest codex approval).1 := by
  unfold ThreadActor.maybeAutoApprovePermissionRequest
  show (if a.config.permissions.permissionProfile ≠ .disabled then _ else _ : Bool × _).1 = _
  split
  · rfl
  · cases approval <;> rfl

/-- An event that is routed is handled by its submission; another one changes none. -/
theorem submissions_handleEvent :
    (a.handleEvent codex event).submissions =
      if a.routes codex event then
        ((a.heard event).onSubmission event.id
          (InSubmission.handleEvent codex event.msg)).submissions
      else a.submissions := by
  unfold ThreadActor.handleEvent ThreadActor.routes
  dsimp only
  split
  next => rfl
  next =>
    generalize hheard : ({ a with
      state := a.state.applyEventUpdates (planActorEvent event.msg).stateUpdates } :
        ThreadActor) = b
    have hb : b = a.heard event := hheard.symm
    cases haction : (planActorEvent event.msg).action with
    | registerPendingUserInput request => rw [hb]; rfl
    | routeToSubmission clear approval =>
      have hdealt := @maybeAutoApprove_heard codex event a approval
      rw [← hb] at hdealt ⊢
      simp only [← hdealt]
      cases hauto : b.maybeAutoApprovePermissionRequest codex approval with
      | mk dealt c =>
        cases dealt with
        | true =>
          obtain ⟨-, approval', -, rfl⟩ := autoApproved_run hauto
          show (ThreadActor.submitOk codex approval'.intoOp b).2.submissions = a.submissions
          rw [submitOk_run, hb]
          split <;> rfl
        | false =>
          obtain ⟨rfl, -⟩ := notAutoApproved_run hauto
          cases clear <;> rfl

end Routes

/-! ## Beside the actor -/

def Label.isEvent : Label → Bool
  | event _ => true
  | _ => false

/-- A step of the actor or of the world around it, with what an event shows. -/
inductive ToolLabel where
  | event (submissionId : String) (event : LiveEvent)
  | other (label : { label : Label // label.isEvent = false })

def ToolLabel.label : ToolLabel → Label
  | .event submissionId live => .event ⟨submissionId, live.recorded⟩
  | .other plain => plain.1

/-- A submission is the one held before, unless it came with a waiter of its own. -/
def PromptState.continues (before after : PromptState) : Bool :=
  after.responses.primary = none || after.responses.primary = before.responses.primary

/-- What is kept beside each submission held: of one that was held before what was kept, as
`go` changes it, and `fresh` of a new one. -/
def keptBeside {α : Type} (before after : Dict String PromptState) (fresh : α)
    (go : String → α → α) (kept : Dict String α) : Dict String α :=
  after.mapValues fun id p =>
    match before.lookup id, kept.lookup id with
    | some p', some a => if p'.continues p then go id a else fresh
    | _, _ => fresh

/-- An actor in its loop, with the tools of its submissions. -/
structure Tooled where
  running : Running
  tools : Dict String LiveTools := ∅
  /-- The events a submission was handed since it was taken in. -/
  history : Dict String (List LiveEvent) := ∅

namespace Tooled

variable (setting : LiveTools.Setting)

def start (config : Config) (models : ModelsManager) : Tooled :=
  { running := .start config models }

/-- The submission that a step hands an event, and the event. -/
def handed (a : ThreadActor) : ToolLabel → Option (String × LiveEvent)
  | .event submissionId event =>
    if a.routes setting.codex ⟨submissionId, event.recorded⟩ then some (submissionId, event)
    else none
  | .other _ => none

/-- What is kept beside a submission, when a step hands it an event or none. -/
def hear {α : Type} (told : Option (String × LiveEvent)) (hears : LiveEvent → α → α) (id : String)
    (a : α) : α :=
  match told with
  | some (id', event) => if id' = id then hears event a else a
  | none => a

def step (t : Tooled) (l : ToolLabel) : Option Tooled :=
  (t.running.step setting.codex l.label).map fun running =>
    let told := handed setting t.running.actor l
    let before := t.running.actor.submissions
    let after := running.actor.submissions
    { running := running
      tools := keptBeside before after {}
        (hear told fun event s => (LiveTools.handleLive setting event s).2) t.tools
      history := keptBeside before after []
        (hear told fun event seen => seen ++ [event]) t.history }

end Tooled

/-! ## One and the same submission -/

/-- What is held after a step under an id that was held before is the same submission, or one
that was taken in with the next waiter. -/
def Continues (d d' : Desk) : Prop :=
  ∀ id p p', d.submissions.lookup id = some p → d'.submissions.lookup id = some p' →
    p.continues p' = true ∨ p' = .new id d.waiters

section Continues

variable {d d' : Desk}

theorem continues_self (p : PromptState) : p.continues p = true := by
  simp [PromptState.continues]

theorem continues_submissions (h : d'.submissions = d.submissions) : Continues d d' := by
  intro id p p' hp hp'
  rw [h, hp] at hp'
  cases hp'
  exact .inl (continues_self p)

/-- What is held already is held after a submission is made sure of. -/
theorem lookup_ensure_of_some {sid id : String} {p : PromptState}
    (hp : d.submissions.lookup id = some p) :
    (d.ensure sid).submissions.lookup id = some p := by
  unfold Desk.ensure
  dsimp only
  split
  next => exact hp
  next hnone =>
    have hid : id ≠ sid := by
      rintro rfl
      rw [hp] at hnone
      cases hnone
    exact (AList.lookup_insert_ne hid).trans hp

/-- One submission is replaced, if it is held, by one that continues it. -/
theorem continues_set {sid : String} {q : PromptState}
    (h : d'.submissions = (d.ensure sid).submissions.set sid q)
    (hq : ∀ p, d.submissions.lookup sid = some p → p.continues q = true) : Continues d d' := by
  intro id p p' hp hp'
  rw [h] at hp'
  rcases Dict.lookup_set_eq_some hp' with ⟨rfl, rfl⟩ | ⟨-, hother⟩
  · exact .inl (hq p hp)
  · rw [lookup_ensure_of_some hp] at hother
    cases hother
    exact .inl (continues_self p)

theorem continues_set_of_some {sid : String} {p q : PromptState}
    (hp : d.submissions.lookup sid = some p) (h : d'.submissions = d.submissions.set sid q)
    (hq : p.continues q = true) : Continues d d' := by
  have hensure : d.ensure sid = d := by
    unfold Desk.ensure
    rw [hp]
  rw [← hensure] at h
  exact continues_set h fun p' hp' => by rwa [Option.some.inj (hp'.symm.trans hp)]

theorem continues_insert {sid : String}
    (h : d'.submissions = d.submissions.insert sid (.new sid d.waiters)) : Continues d d' := by
  intro id p p' hp hp'
  rw [h] at hp'
  rcases Dict.lookup_insert_eq_some.mp hp' with ⟨rfl, rfl⟩ | ⟨-, hother⟩
  · exact .inr rfl
  · rw [hp] at hother
    cases hother
    exact .inl (continues_self p)

theorem continues_clear (h : d'.submissions = d.clear.submissions) : Continues d d' := by
  intro id p p' hp hp'
  rw [h, Desk.clear, Dict.lookup_mapValues, hp] at hp'
  cases hp'
  exact .inl (continues_self p)

theorem continues_ensure {sid : String} (h : d'.submissions = (d.ensure sid).submissions) :
    Continues d d' := by
  intro id p p' hp hp'
  rw [h, lookup_ensure_of_some hp] at hp'
  cases hp'
  exact .inl (continues_self p)

theorem continues_collect (h : d'.submissions = d.collect.submissions) : Continues d d' := by
  intro id p p' hp hp'
  rw [h] at hp'
  have hkept := (Dict.lookup_retain_eq_some.mp hp').1
  rw [hp] at hkept
  cases hkept
  exact .inl (continues_self p)

/-- All waiters are told at once, and none is left. -/
theorem continues_told (p : PromptState) (interactions : PermissionInteractions) :
    p.continues { p with permissionInteractions := interactions, responses := ⟨none, []⟩ } =
      true := by
  simp [PromptState.continues]

theorem not_continues_new {id : String} {p : PromptState} (hd : WaitersOnce d)
    (hp : d.submissions.lookup id = some p) : p.continues (.new id d.waiters) = false := by
  have hprimary : p.responses.primary ≠ some d.waiters := by
    intro h
    have hmem : d.waiters ∈ d.registered id := by
      rw [registered_of_lookup hp, PromptResponses.all, h]
      exact List.mem_cons_self
    exact Nat.lt_irrefl _ (hd.registered_lt id _ hmem)
  simp [PromptState.continues, PromptState.new, PromptResponses.ofPrimary, Ne.symm hprimary]

theorem continues_of_step {codex : Codex} {r r' : Running} {l : Label}
    (hstep : r.step codex l = some r') : Continues r.actor.desk r'.actor.desk := by
  cases step_effect hstep with
  | opened _ _ h => exact continues_insert (congrArg Desk.submissions h)
  | answered _ _ hp h =>
    refine continues_set (congrArg Desk.submissions h) fun p hheld => ?_
    rw [lookup_ensure_of_some hheld] at hp
    cases hp
    exact continues_self _
  | answerRefused _ h => exact continues_ensure ((congrArg Desk.submissions h).trans rfl)
  | cancelled _ _ h | cancelRefused _ _ h =>
    exact continues_clear ((congrArg Desk.submissions h).trans rfl)
  | resolved _ hp _ _ _ h =>
    exact continues_set_of_some hp (congrArg Desk.submissions h) (continues_self _)
  | resolutionFailed _ _ hp _ _ h =>
    exact continues_set_of_some hp (congrArg Desk.submissions h) (continues_told _ _)
  | requested _ _ hp h =>
    exact continues_set_of_some hp (congrArg Desk.submissions h) (continues_self _)
  | contentFailed _ _ hp _ h | declineRefused _ _ hp _ h =>
    exact continues_set_of_some hp (congrArg Desk.submissions h) (continues_told _ _)
  | finished _ hp h =>
    have hsubs := (congrArg Desk.submissions h).trans (Desk.settle_submissions _ _)
    exact continues_set_of_some hp hsubs (continues_told _ _)
  | collected h => exact continues_collect (congrArg Desk.submissions h)
  | unrouted _ _ h | passed _ _ h =>
    exact continues_submissions ((congrArg Desk.submissions h).trans (Desk.settle_submissions _ _))
  | idle _ h => exact continues_submissions (congrArg Desk.submissions h)
  | quiet _ h | shown _ _ _ h | replayed h | unresolved _ _ h | registered _ _ h
      | autoApproved _ _ _ h | autoApprovalRefused _ _ _ h | declined _ _ _ _ h | responded _ _ h
      | sent _ _ h | closed _ h =>
    exact continues_submissions ((congrArg Desk.submissions h).trans rfl)

/-- **One and the same.** `PromptState.continues` tells a submission that is held on to from one
that is taken in under its id. -/
theorem continues_iff_of_step {codex : Codex} {r r' : Running} {l : Label} {id : String}
    {p p' : PromptState} (hstep : r.step codex l = some r') (hd : WaitersOnce r.actor.desk)
    (hp : r.actor.desk.submissions.lookup id = some p)
    (hp' : r'.actor.desk.submissions.lookup id = some p') :
    p.continues p' = true ↔ p' ≠ .new id r.actor.desk.waiters := by
  constructor
  · rintro hcontinues rfl
    rw [not_continues_new hd hp] at hcontinues
    cases hcontinues
  · exact fun hnew => (continues_of_step hstep id p p' hp hp').resolve_right hnew

end Continues

/-! ## What is kept -/

section Kept

variable {α β : Type} {before after : Dict String PromptState} {kept : Dict String α}

theorem isSome_lookup_keptBeside (fresh : α) (go : String → α → α) (id : String) :
    ((keptBeside before after fresh go kept).lookup id).isSome = (after.lookup id).isSome := by
  unfold keptBeside
  rw [Dict.lookup_mapValues, Option.isSome_map]

/-- What is made of what is kept is kept, if it is made of the changes, too. -/
theorem mapValues_keptBeside {f : α → β} {fresh : α} {go : String → α → α}
    {go' : String → β → β} (hgo : ∀ id a, f (go id a) = go' id (f a)) :
    (keptBeside before after fresh go kept).mapValues (fun _ a => f a) =
      keptBeside before after (f fresh) go' (kept.mapValues fun _ a => f a) := by
  unfold keptBeside
  rw [Dict.mapValues_mapValues]
  refine congrArg (Dict.mapValues · after) (funext fun id => funext fun p => ?_)
  rw [Dict.lookup_mapValues]
  cases before.lookup id with
  | none => rfl
  | some p' =>
    cases kept.lookup id with
    | none => rfl
    | some a =>
      show f (if p'.continues p then go id a else fresh) = if p'.continues p then _ else _
      rw [apply_ite f, hgo]

end Kept

namespace Tooled

variable {setting : LiveTools.Setting} {t t' : Tooled} {config : Config} {models : ModelsManager}
  {labels : List ToolLabel}

/-- The tools of a history. -/
def toolsOf (setting : LiveTools.Setting) (events : List LiveEvent) : LiveTools :=
  (LiveTools.handleLive setting).final {} events

/-- Every submission held has its tools and its history, and no other. -/
def Held (t : Tooled) : Prop :=
  ∀ id, (t.history.lookup id).isSome = (t.running.actor.submissions.lookup id).isSome

/-- The tools are what the history makes of none. -/
def Told (setting : LiveTools.Setting) (t : Tooled) : Prop :=
  t.tools = t.history.mapValues fun _ events => toolsOf setting events

theorem held_step {l : ToolLabel} (h : t.step setting l = some t') : t'.Held := by
  obtain ⟨running, -, rfl⟩ := Option.map_eq_some_iff.mp h
  exact fun id => isSome_lookup_keptBeside [] _ id

theorem toolsOf_hear (told : Option (String × LiveEvent)) (id : String)
    (events : List LiveEvent) :
    toolsOf setting (hear told (fun event seen => seen ++ [event]) id events) =
      hear told (fun event s => (LiveTools.handleLive setting event s).2) id
        (toolsOf setting events) := by
  unfold hear
  cases told with
  | none => rfl
  | some told =>
    obtain ⟨id', event⟩ := told
    by_cases hid : id' = id
    · simp only [if_pos hid]
      exact Transducer.final_append ({} : LiveTools) events [event]
    · simp only [if_neg hid]

theorem told_step {l : ToolLabel} (htold : t.Told setting) (h : t.step setting l = some t') :
    t'.Told setting := by
  obtain ⟨running, -, rfl⟩ := Option.map_eq_some_iff.mp h
  have hkept := @mapValues_keptBeside _ _ t.running.actor.submissions running.actor.submissions
    t.history (toolsOf setting) [] _ _ (toolsOf_hear (handed setting t.running.actor l))
  rw [← htold] at hkept
  exact hkept.symm

/-- **The tools** are what the events made of none that their submission was handed. -/
theorem tools_of_run (h : exec (step setting) (start config models) labels = some t) :
    t.Told setting := by
  have hstart : (start config models).Told setting := AList.ext rfl
  exact exec_invariant (C := fun _ _ _ => True) (fun _ _ _ htold _ hstep => told_step htold hstep)
    labels hstart (along_of_forall (fun _ _ _ => trivial) labels _) h

/-- **Who is held.** A submission that is collected drops out. -/
theorem held_of_run (h : exec (step setting) (start config models) labels = some t) : t.Held := by
  have hstart : (start config models).Held := fun _ => rfl
  exact exec_invariant (C := fun _ _ _ => True) (fun _ _ _ _ _ hstep => held_step hstep)
    labels hstart (along_of_forall (fun _ _ _ => trivial) labels _) h

/-- The actor goes on as it does without its tools. -/
theorem running_of_run (h : exec (step setting) t labels = some t') :
    exec (Running.step setting.codex) t.running (labels.map ToolLabel.label) =
      some t'.running := by
  induction labels generalizing t with
  | nil =>
    cases h
    rfl
  | cons l labels ih =>
    obtain ⟨m, hstep, hrest⟩ := exec_cons_inv h
    obtain ⟨running, hrunning, rfl⟩ := Option.map_eq_some_iff.mp hstep
    rw [List.map_cons, exec_cons_some hrunning]
    exact ih hrest

end Tooled

end CodexAcp.Thread
