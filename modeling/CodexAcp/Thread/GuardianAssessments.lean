import CodexAcp.Boundary.Guardian
import CodexAcp.Lib.Segments
import CodexAcp.Lib.Transducer
import Mathlib.Data.Finset.Basic

/-!
# Assessments that go on

A submission keeps the ids of the assessments that go on. A report on another one
introduces its tool call, whatever it says; a report on one of them updates it; and
the id is kept as long as the last report was one of progress.

> `guardianAssessments_bracketed`: the tool call of an assessment is introduced,
> updated and ended, and only then introduced again, however the reports on
> different assessments mix.
-/

namespace CodexAcp.Thread

open CodexAcp.Lib CodexAcp.Boundary CodexAcp.Boundary.Guardian

/-! ## One report -/

/-- The answer is whether the id was not kept yet. -/
def insertActiveGuardianAssessment (id : String) (active : Finset String) :
    Bool × Finset String :=
  (decide (id ∉ active), insert id active)

/-- The answer is whether the id was kept. -/
def removeActiveGuardianAssessment (id : String) (active : Finset String) :
    Bool × Finset String :=
  (decide (id ∈ active), active.erase id)

section Shlex

variable (shlexTryJoin : List String → Option String)

def guardianAssessment :
    Transducer (Finset String) GuardianAssessmentEvent Shown.SessionUpdate := fun event active =>
  match guardianAssessmentEffectPlan shlexTryJoin event with
  | .inProgress id start update =>
    let (inserted, active) := insertActiveGuardianAssessment id active
    (if inserted then start else update, active)
  | .finished id start update =>
    let (removed, active) := removeActiveGuardianAssessment id active
    (if removed then update else start, active)

/-- What the editor is sent of the reports of a submission. -/
def guardianNotifications (events : List GuardianAssessmentEvent) : List Shown.SessionUpdate :=
  (guardianAssessment shlexTryJoin).trace (fun _ effect => [effect]) ∅ events

def activeGuardianAssessments (events : List GuardianAssessmentEvent) : Finset String :=
  (guardianAssessment shlexTryJoin).final ∅ events

/-- What the editor is sent of one assessment. -/
def notificationsFor (id : String) (events : List GuardianAssessmentEvent) :
    List Shown.SessionUpdate :=
  (guardianNotifications shlexTryJoin events).filter fun effect =>
    effect.callId = guardianAssessmentToolCallId id

/-- The notifications of an assessment in segments: a tool call, updates, and the first
notification that ends it; the last one goes on if `isOpen`. -/
def InSegments (id : String) (events : List GuardianAssessmentEvent) (isOpen : Bool) : Prop :=
  Segmented Shown.SessionUpdate.isToolCall (fun effect => effect.status.any isTerminal)
    (notificationsFor shlexTryJoin id events) isOpen

/-- The status of the last report on the assessment. -/
def lastStatus (id : String) (events : List GuardianAssessmentEvent) :
    Option GuardianAssessmentStatus :=
  ((events.filter fun event => event.id = id).getLast?).map GuardianAssessmentEvent.status

/-- What the editor is sent of each assessment is well bracketed. -/
structure Bracketed (events : List GuardianAssessmentEvent) : Prop where
  segments : ∀ id,
    InSegments shlexTryJoin id events (decide (id ∈ activeGuardianAssessments shlexTryJoin events))
  /-- An update is only sent to an open segment. -/
  updates : ∀ before event, before ++ [event] <+: events →
    (guardianAssessment shlexTryJoin event
      (activeGuardianAssessments shlexTryJoin before)).1.isToolCall = false →
    InSegments shlexTryJoin event.id before true
  active : ∀ id, id ∈ activeGuardianAssessments shlexTryJoin events ↔
    lastStatus id events = some .inProgress

end Shlex

/-! ## What a report does -/

section Run

variable {shlexTryJoin : List String → Option String}

/-- The ids that are kept decide between the two effects, and the status between keeping the id
and dropping it. -/
theorem guardianAssessment_eq (event : GuardianAssessmentEvent) (active : Finset String) :
    guardianAssessment shlexTryJoin event active =
      (if event.id ∈ active then (guardianAssessmentEffectPlan shlexTryJoin event).update
        else (guardianAssessmentEffectPlan shlexTryJoin event).start,
      if event.status = .inProgress then insert event.id active else active.erase event.id) := by
  obtain ⟨id, status, riskLevel, rationale, action, json⟩ := event
  cases status <;>
    simp [guardianAssessment, guardianAssessmentEffectPlan, insertActiveGuardianAssessment,
      removeActiveGuardianAssessment, GuardianAssessmentEffectPlan.start,
      GuardianAssessmentEffectPlan.update]

/-- A report introduces the tool call of an assessment that does not go on, and updates that of
one that does; either way with its own status. -/
theorem guardianAssessment_effect (shlexTryJoin : List String → Option String)
    (event : GuardianAssessmentEvent) (active : Finset String) :
    let effect := (guardianAssessment shlexTryJoin event active).1
    effect.callId = guardianAssessmentToolCallId event.id ∧
      effect.status = some (guardianAssessmentToolCallStatus event.status) ∧
      effect.isToolCall = decide (event.id ∉ active) := by
  dsimp only
  rw [guardianAssessment_eq]
  dsimp only
  by_cases hid : event.id ∈ active
  · obtain ⟨change, hchange, hcallId, hstatus⟩ :=
      guardianAssessmentEffectPlan_update shlexTryJoin event
    rw [if_pos hid, hchange]
    exact ⟨hcallId, hstatus, (decide_eq_false (not_not.mpr hid)).symm⟩
  · obtain ⟨call, hcall, hcallId, hstatus⟩ :=
      guardianAssessmentEffectPlan_start shlexTryJoin event
    rw [if_neg hid, hcall]
    exact ⟨hcallId, congrArg some hstatus, (decide_eq_true hid).symm⟩

/-- An assessment goes on after a report on it exactly if that was one of progress. -/
theorem mem_guardianAssessment {id : String} (event : GuardianAssessmentEvent)
    (active : Finset String) :
    id ∈ (guardianAssessment shlexTryJoin event active).2 ↔
      if event.id = id then event.status = .inProgress else id ∈ active := by
  rw [guardianAssessment_eq]
  dsimp only
  by_cases hid : event.id = id
  · subst hid
    rw [if_pos rfl]
    split
    next hprogress => exact iff_of_true (Finset.mem_insert_self _ _) hprogress
    next hended => exact iff_of_false (Finset.notMem_erase _ _) hended
  · rw [if_neg hid]
    split
    · rw [Finset.mem_insert, or_iff_right (Ne.symm hid)]
    · rw [Finset.mem_erase, and_iff_right (Ne.symm hid)]

/-! ## A run of reports -/

variable (before : List GuardianAssessmentEvent) (event : GuardianAssessmentEvent)

/-- One more report is answered after the ones before it. -/
theorem activeGuardianAssessments_concat :
    activeGuardianAssessments shlexTryJoin (before ++ [event]) =
      (guardianAssessment shlexTryJoin event
        (activeGuardianAssessments shlexTryJoin before)).2 :=
  Transducer.final_append ∅ before [event]

theorem notificationsFor_concat (id : String) :
    notificationsFor shlexTryJoin id (before ++ [event]) =
      notificationsFor shlexTryJoin id before ++
        if event.id = id then
          [(guardianAssessment shlexTryJoin event
            (activeGuardianAssessments shlexTryJoin before)).1]
        else [] := by
  unfold notificationsFor guardianNotifications activeGuardianAssessments
  rw [Transducer.trace_append, List.filter_append]
  congr 1
  rw [Transducer.trace_cons]
  show List.filter _ [(guardianAssessment shlexTryJoin event _).1] = _
  obtain ⟨hcallId, -, -⟩ := guardianAssessment_effect shlexTryJoin event
    ((guardianAssessment shlexTryJoin).final ∅ before)
  by_cases hid : event.id = id
  · rw [if_pos hid, List.filter_singleton, hcallId, hid]
    simp
  · rw [if_neg hid, List.filter_singleton, hcallId]
    simp [guardianAssessmentToolCallId_inj, hid]

theorem lastStatus_concat (id : String) :
    lastStatus id (before ++ [event]) =
      if event.id = id then some event.status else lastStatus id before := by
  unfold lastStatus
  rw [List.filter_append]
  by_cases hid : event.id = id
  · rw [if_pos hid, List.filter_cons_of_pos (by simpa using hid), List.filter_nil,
      List.getLast?_concat, Option.map_some]
  · rw [if_neg hid, List.filter_cons_of_neg (by simpa using hid), List.filter_nil,
      List.append_nil]

/-- **The ids that are kept.** -/
theorem mem_activeGuardianAssessments (events : List GuardianAssessmentEvent) (id : String) :
    id ∈ activeGuardianAssessments shlexTryJoin events ↔
      lastStatus id events = some .inProgress := by
  induction events using List.reverseRecOn with
  | nil => exact iff_of_false (Finset.notMem_empty id) nofun
  | append_singleton before event ih =>
    rw [activeGuardianAssessments_concat, mem_guardianAssessment, lastStatus_concat]
    split
    · exact Option.some_inj.symm
    · exact ih

/-- **The notifications of an assessment.** -/
theorem inSegments (shlexTryJoin : List String → Option String)
    (events : List GuardianAssessmentEvent) (id : String) :
    InSegments shlexTryJoin id events
      (decide (id ∈ activeGuardianAssessments shlexTryJoin events)) := by
  induction events using List.reverseRecOn with
  | nil => exact Segmented.nil
  | append_singleton before event ih =>
    unfold InSegments
    rw [notificationsFor_concat, activeGuardianAssessments_concat]
    simp only [mem_guardianAssessment]
    by_cases hid : event.id = id
    · subst hid
      obtain ⟨-, hstatus, htoolCall⟩ := guardianAssessment_effect shlexTryJoin event
        (activeGuardianAssessments shlexTryJoin before)
      have hnext := ih.concat (htoolCall.trans decide_not)
      rw [hstatus, Option.any_some, isTerminal_toolCallStatus, Bool.not_not] at hnext
      simpa only [if_true] using hnext
    · simp only [if_neg hid, List.append_nil]
      exact ih

/-- The editor can tell which go on: those whose last notification does not end the call. -/
theorem activeGuardianAssessments_shown (events : List GuardianAssessmentEvent) (id : String) :
    decide (id ∈ activeGuardianAssessments shlexTryJoin events) =
      (notificationsFor shlexTryJoin id events).getLast?.any fun effect =>
        !effect.status.any isTerminal :=
  (inSegments shlexTryJoin events id).isOpen_eq

end Run

/-- **Guardian assessments are well bracketed**, whatever the reports and their order. -/
theorem guardianAssessments_bracketed (shlexTryJoin : List String → Option String)
    (events : List GuardianAssessmentEvent) : Bracketed shlexTryJoin events where
  segments := inSegments shlexTryJoin events
  updates before event _ hupdate := by
    obtain ⟨-, -, htoolCall⟩ := guardianAssessment_effect shlexTryJoin event
      (activeGuardianAssessments shlexTryJoin before)
    rw [hupdate, decide_not, Bool.false_eq, Bool.not_eq_false'] at htoolCall
    have hsegments := inSegments shlexTryJoin before event.id
    rwa [htoolCall] at hsegments
  active := mem_activeGuardianAssessments events

/-- For concrete runs: a report on a command. -/
def sampleReport (id : String) (status : GuardianAssessmentStatus) : GuardianAssessmentEvent :=
  { id := id
    status := status
    riskLevel := none
    rationale := none
    action := .command .shell "cargo test"
    json := .null }

/-- An end without a start is introduced, and so is what comes after an end. -/
example :
    (guardianNotifications (fun _ => none)
      [sampleReport "a" .inProgress, sampleReport "b" .denied, sampleReport "a" .inProgress,
        sampleReport "a" .approved, sampleReport "a" .aborted]).map
      Shown.SessionUpdate.isToolCall = [true, true, false, false, true] := by
  decide

end CodexAcp.Thread
