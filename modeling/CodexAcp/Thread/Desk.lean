import CodexAcp.Thread.Actor
import CodexAcp.Thread.SettingsFrame

/-!
# The desk: what an actor holds open

Most of an actor's state has nothing to do with what it owes to others. The
desk is the part that has: the submissions with their pending requests and
waiters, the submission whose question waits for the user, the permission
tasks, the queue of their responses, the results delivered, and the ops Codex
accepted. `Effect` says once what each step can do to the desk, as one
equation for each case:

> `step_effect`: every step of the loop is one of the cases of `Effect`.

The invariants of the following files are proved over `Effect`, so none of them
unfolds a handler. A settings request is one case (`quiet`) however many
handlers it runs through: `Quiet` is a frame, and the settings handlers keep it.
-/

namespace CodexAcp.Thread

open CodexAcp.Lib CodexAcp.Protocol CodexAcp.Boundary

structure Desk where
  submissions : Dict String PromptState
  pendingSubmission : Option String
  accepted : List (Op × String)
  tasks : List Task
  resolutions : List (TaskId × PermissionRequestResolved)
  waiters : Nat
  closed : List WaiterId
  results : List (WaiterId × PromptResult)

/-- The part of an actor's state it owes something for. -/
def ThreadActor.desk (a : ThreadActor) : Desk :=
  { submissions := a.submissions
    pendingSubmission := a.state.pendingSubmissionId
    accepted := a.world.accepted
    tasks := a.world.tasks
    resolutions := a.world.resolutions
    waiters := a.world.waiters
    closed := a.world.closed
    results := a.world.results }

/-- The interaction filed under a submission and a key. -/
def Desk.interaction (d : Desk) (sid key : String) : Option PendingPermissionInteraction :=
  (d.submissions.lookup sid).bind fun p => p.permissionInteractions.lookup key

/-! ## Tasks and results in bulk -/

theorem Task.abort_abort (t : Task) : t.abort.abort = t.abort := by
  obtain ⟨submissionId, request, state⟩ := t
  cases state <;> rfl

/-- What a task is after some tasks were cancelled: cancelled if it was one of them. -/
theorem getElem?_abortAll (ns : List TaskId) (tasks : List Task) (n : TaskId) :
    (abortAll ns tasks)[n]? = if n ∈ ns then tasks[n]?.map Task.abort else tasks[n]? := by
  unfold abortAll
  induction ns generalizing tasks with
  | nil => simp
  | cons m ns ih =>
    rw [List.foldl_cons, ih, List.getElem?_modify]
    by_cases hmn : m = n
    · subst hmn
      by_cases hmem : m ∈ ns <;> simp [hmem, Function.comp_def, Task.abort_abort]
    · have hnm : n ≠ m := fun h => hmn h.symm
      simp [hmn, hnm, List.mem_cons]

@[simp] theorem length_abortAll (ns : List TaskId) (tasks : List Task) :
    (abortAll ns tasks).length = tasks.length := by
  unfold abortAll
  induction ns generalizing tasks with
  | nil => rfl
  | cons m ns ih => rw [List.foldl_cons, ih, List.length_modify]

/-- The results some waiters get: one each, unless their receiver is closed. -/
def delivered (closed waiters : List WaiterId) (result : PromptResult) :
    List (WaiterId × PromptResult) :=
  (waiters.filter (· ∉ closed)).map (·, result)

theorem foldl_sendResult (result : PromptResult) (ws : List WaiterId) (w : World) :
    ws.foldl (World.sendResult result) w
      = { w with results := w.results ++ delivered w.closed ws result } := by
  induction ws generalizing w with
  | nil => simp [delivered]
  | cons waiter ws ih =>
    rw [List.foldl_cons, ih]
    unfold World.sendResult
    by_cases h : waiter ∈ w.closed <;> simp [delivered, h]

/-! ## Quiet steps -/

/-- Nothing on the desk moved, except that ops which answer no approval were
accepted. -/
def Quiet (d d' : Desk) : Prop :=
  ∃ ops, (∀ o ∈ ops, Op.approvalTarget o.1 = none) ∧ d' = { d with accepted := d.accepted ++ ops }

theorem Quiet.refl (d : Desk) : Quiet d d :=
  ⟨[], by simp, by simp⟩

theorem Quiet.trans {d d' d'' : Desk} (h : Quiet d d') (h' : Quiet d' d'') : Quiet d d'' := by
  obtain ⟨ops, hops, rfl⟩ := h
  obtain ⟨ops', hops', rfl⟩ := h'
  refine ⟨ops ++ ops', ?_, by simp⟩
  intro o ho
  rcases List.mem_append.mp ho with h | h
  · exact hops o h
  · exact hops' o h

/-- Two actors with the same desk. -/
theorem Quiet.of_eq {d d' : Desk} (h : d' = d) : Quiet d d' := h ▸ Quiet.refl d

/-- Every run of the handler, failed or not, is quiet. -/
def QuietHandler {α : Type} (x : Handler ThreadActor Error α) : Prop :=
  Handler.Frame (fun a b => Quiet a.desk b.desk) x

section QuietHandlers

variable {α : Type}

theorem quiet_pure (a : α) : QuietHandler (pure a) := Handler.frame_pure (fun _ => .refl _) a

theorem quiet_reads (f : ThreadActor → α) : QuietHandler (Handler.reads f) :=
  Handler.frame_reads (fun _ => .refl _) f

end QuietHandlers

/-! ## The settings handlers are quiet -/

section Settings

open ThreadActor

variable {codex : Codex}

theorem maybeEmitConfigOptionsUpdate_desk (a : ThreadActor) :
    (a.maybeEmitConfigOptionsUpdate codex).desk = a.desk := by
  unfold maybeEmitConfigOptionsUpdate
  dsimp only
  split <;> rfl

theorem rememberGoal_desk (goal : Option ThreadGoal) (a : ThreadActor) :
    (rememberGoal goal a).desk = a.desk := by
  unfold rememberGoal ActorState.updateGoal
  by_cases h : a.state.currentGoal = goal
  · rw [if_pos h]; rfl
  · rw [if_neg h]; rfl

/-- The local write of a setting leaves the desk alone. -/
theorem Setting.desk {a b : ThreadActor} {overrides : ThreadSettingsOverrides}
    (h : Setting codex a overrides b) : b.desk = a.desk := by
  cases h <;> rfl

theorem Setting.quiet {a b : ThreadActor} {overrides : ThreadSettingsOverrides}
    (h : Setting codex a overrides b) (id : String) :
    Quiet a.desk (b.accept (.threadSettings overrides) id).desk := by
  refine ⟨[(.threadSettings overrides, id)], by simp [Op.approvalTarget], ?_⟩
  rw [← h.desk]
  rfl

/-- Every move of a settings handler is quiet, so every settings handler is. -/
theorem quietFrame : SettingsFrame codex fun a b => Quiet a.desk b.desk where
  refl _ := .of_eq rfl
  trans h h' := h.trans h'
  called _ := .of_eq rfl
  saved _ _ := .of_eq rfl
  plainSetting h _ id := h.quiet id
  setting h id := h.quiet id
  permissions _ _ := .of_eq rfl
  reviewBranch _ _ := .of_eq rfl
  goal goal a := .of_eq (rememberGoal_desk goal a)
  emit a := .of_eq (maybeEmitConfigOptionsUpdate_desk a)

end Settings

end CodexAcp.Thread
