import CodexAcp.Thread.ShownCalls

/-!
# Patches on the screen

A patch is shown when it begins, each time its changes are reported while it is
applied, and when it ends; a report that names no file shows nothing. What is shown
of a file is read from the disk as it is by then.

> `patch_shown`: a patch is shown by the last of its reports that names a file.
> `sent_eq_of_reordered`: in whatever order its map lists the files, but for the
> raw values, which are the events as they came.
-/

namespace CodexAcp.Thread

open CodexAcp.Lib CodexAcp.Protocol CodexAcp.Boundary CodexAcp.Boundary.Shown LiveTools

section Run

variable {setting : Setting} {callId : String}

/-! ## What is reported -/

/-- The changes of a patch, and the disk as it was when they were reported. -/
structure PatchReport where
  changes : FileChanges
  disk : FileSystem

/-- What a call of a patch shows. -/
def patchRow (display : Display) (report : PatchReport) (context : FileChangeRenderContext)
    (status : ToolCallStatus) : Row :=
  let (title, locations, content) :=
    extractToolCallContentFromChanges display.reader.diffy report.disk report.changes context
  { title := title, kind := .edit, status := status, content := content, locations := locations }

/-- What an event reports of a patch while it is applied, if it names a file. -/
def reportedChange (callId : String) : LiveEvent → Option PatchReport
  | .patchApplyUpdated event disk =>
    if event.callId = callId ∧ event.changes.isEmpty = false then some ⟨event.changes, disk⟩
    else none
  | _ => none

/-- The patch is begun and ended in the run, and only its changes are reported in between. -/
def AppliesPatch (begin' : Shown.PatchApplyBeginEvent) (diskBegin : FileSystem)
    (middle : List LiveEvent) (end' : Shown.PatchApplyEndEvent) (diskEnd : FileSystem)
    (events : List LiveEvent) : Prop :=
  ∃ before after, events = before ++ .patchApplyBegin begin' diskBegin ::
      (middle ++ .patchApplyEnd end' diskEnd :: after) ∧
    begin'.callId = end'.callId ∧ .webSearchBegin end'.callId ∉ before ∧
    (∀ event ∈ middle, eventCallId event = some end'.callId →
      ∃ report disk, event = .patchApplyUpdated report disk) ∧
    Unmentioned end'.callId after

/-- The update shows the report, whatever was shown of the patch. -/
structure Reports (display : Display) (callId : String) (report : PatchReport)
    (update : Shown.ToolCallUpdate) : Prop where
  callId_eq : update.callId = callId
  act_eq : ∀ row, update.act row = patchRow display report .beforeApply .inProgress

theorem reports_patchApplyUpdated (display : Display) (report : Shown.PatchApplyUpdatedEvent)
    (disk : FileSystem) :
    List.Forall₂ (Reports display report.callId)
      (reportedChange report.callId (.patchApplyUpdated report disk)).toList
      (patchApplyUpdatedToolCallUpdate display.reader.diffy disk report).toList := by
  unfold patchApplyUpdatedToolCallUpdate
  split
  next hempty =>
    have hnone : reportedChange report.callId (.patchApplyUpdated report disk) = none :=
      if_neg fun hreport => Bool.false_ne_true (hreport.2.symm.trans hempty)
    rw [hnone]
    exact .nil
  next hempty =>
    have hsome : reportedChange report.callId (.patchApplyUpdated report disk) =
        some ⟨report.changes, disk⟩ := if_pos ⟨rfl, Bool.eq_false_of_not_eq_true hempty⟩
    rw [hsome]
    exact .cons ⟨rfl, fun _ => rfl⟩ .nil

theorem reportedChange_of_ne {event : LiveEvent} (h : eventCallId event ≠ some callId) :
    reportedChange callId event = none := by
  cases event
  case patchApplyUpdated report disk => exact if_neg fun hreport => h (congrArg some hreport.1)
  all_goals rfl

/-- While a patch is applied, each report of changes is one update. -/
theorem updatesOf_sent_of_reports {s : LiveTools} (hs : Apart callId s) {events : List LiveEvent}
    (hevents : ∀ event ∈ events, eventCallId event = some callId →
      ∃ report disk, event = .patchApplyUpdated report disk) :
    ∃ parts, updatesOf callId (sent setting events s) = parts.map .toolCallUpdate ∧
      List.Forall₂ (Reports setting.display callId) (events.filterMap (reportedChange callId))
        parts := by
  induction events generalizing s with
  | nil => exact ⟨[], rfl, .nil⟩
  | cons event events ih =>
    obtain ⟨hevent, hevents⟩ := List.forall_mem_cons.mp hevents
    have hnext : Apart callId (handleLive setting event s).2 := by
      refine hs.handleLive fun heq => ?_
      subst heq
      obtain ⟨report, disk, hreport⟩ := hevent rfl
      cases hreport
    obtain ⟨parts, hparts, hreports⟩ := ih hnext hevents
    rw [sent_cons, updatesOf_append, hparts]
    by_cases hid : eventCallId event = some callId
    · obtain ⟨report, disk, rfl⟩ := hevent hid
      have hreport : report.callId = callId := Option.some.inj hid
      have hall : ∀ update ∈ statelessUpdates setting.display (.patchApplyUpdated report disk),
          update.callId = callId := fun update hupdate =>
        Option.some.inj ((callId_statelessUpdates setting.display _ update hupdate).symm.trans hid)
      refine ⟨(patchApplyUpdatedToolCallUpdate setting.display.reader.diffy disk report).toList ++
        parts, ?_, ?_⟩
      · rw [updatesOf_handleLive_of_isStateless hs rfl, List.map_append]
        exact congrArg (· ++ _) (List.filter_eq_self.mpr fun update hupdate =>
          decide_eq_true (hall update hupdate))
      · have hnow := reports_patchApplyUpdated setting.display report disk
        rw [hreport] at hnow
        have hboth := List.rel_append hnow hreports
        rw [List.filterMap_cons]
        cases hchange : reportedChange callId (.patchApplyUpdated report disk) with
        | none => rwa [hchange] at hboth
        | some change => rwa [hchange] at hboth
    · rw [updatesOf_handleLive_of_ne hs hid, List.filterMap_cons_none (reportedChange_of_ne hid)]
      exact ⟨parts, rfl, hreports⟩

/-- Of the reports, the last is shown. -/
theorem foldl_reports {display : Display} {reported : List PatchReport}
    {parts : List Shown.ToolCallUpdate}
    (h : List.Forall₂ (Reports display callId) reported parts) (report : PatchReport) :
    parts.foldl (fun row part => part.act row) (patchRow display report .beforeApply .inProgress) =
      patchRow display (reported.getLastD report) .beforeApply .inProgress := by
  induction h generalizing report with
  | nil => rfl
  | cons hreport _ ih =>
    rw [List.foldl_cons, hreport.act_eq, ih, List.getLastD_cons]

/-- What the end of a patch leaves of it: its own changes, if there are any. -/
theorem act_patchApplyEnd (display : Display) (event : Shown.PatchApplyEndEvent)
    (disk : FileSystem) (report : PatchReport) :
    (patchApplyEndToolCallUpdate display.reader.diffy disk event).act
        (patchRow display report .beforeApply .inProgress) =
      let status := patchApplyToolCallStatus event.status event.success
      if event.changes.isEmpty then patchRow display report .beforeApply status
      else patchRow display ⟨event.changes, disk⟩ (patchEndContext status) status := by
  unfold patchApplyEndToolCallUpdate
  dsimp only
  split <;> rfl

/-- **A patch** is shown, in any run in which it is applied, by the last report that names a file,
and as it ended; what is read of the files is what was there when the event came. -/
theorem patch_shown (setting : Setting) {begin' : Shown.PatchApplyBeginEvent}
    {diskBegin : FileSystem} {middle : List LiveEvent} {end' : Shown.PatchApplyEndEvent}
    {diskEnd : FileSystem} {events : List LiveEvent}
    (h : AppliesPatch begin' diskBegin middle end' diskEnd events) :
    (shown (sent setting events {})).lookup end'.callId =
      let status := patchApplyToolCallStatus end'.status end'.success
      some (if end'.changes.isEmpty then
          patchRow setting.display ((middle.filterMap (reportedChange end'.callId)).getLastD
            ⟨begin'.changes, diskBegin⟩) .beforeApply status
        else patchRow setting.display ⟨end'.changes, diskEnd⟩ (patchEndContext status) status) := by
  obtain ⟨before, after, rfl, hid, hsearch, hmiddle, hafter⟩ := h
  have hbefore := @Apart.final setting _ _ (apart_empty end'.callId) _ hsearch
  have hbegun := @Apart.handleLive setting _ _ hbefore (.patchApplyBegin begin' diskBegin) nofun
  have hmid := @Apart.final setting _ _ hbegun middle fun hmem => by
    obtain ⟨report, disk, hreport⟩ := hmiddle _ hmem rfl
    cases hreport
  have hended := @Apart.handleLive setting _ _ hmid (.patchApplyEnd end' diskEnd) nofun
  obtain ⟨parts, hparts, hreports⟩ := @updatesOf_sent_of_reports setting _ _ hbegun _ hmiddle
  have hend : end'.callId =
      (patchApplyEndToolCallUpdate setting.display.reader.diffy diskEnd end').callId := by
    unfold patchApplyEndToolCallUpdate
    dsimp only
    split <;> rfl
  have hsent : updatesOf end'.callId (sent setting (before ++ .patchApplyBegin begin' diskBegin ::
      (middle ++ .patchApplyEnd end' diskEnd :: after)) {}) =
      updatesOf end'.callId (sent setting before {}) ++
        .toolCall (patchApplyBeginToolCall setting.display.reader.diffy diskBegin begin') ::
        (parts ++ [patchApplyEndToolCallUpdate setting.display.reader.diffy diskEnd end']).map
          .toolCallUpdate := by
    rw [sent_append, sent_cons, sent_append, sent_cons]
    simp only [updatesOf_append]
    rw [updatesOf_handleLive_of_isStateless hbefore rfl, hparts,
      updatesOf_handleLive_of_isStateless hmid rfl, updatesOf_sent hended hafter]
    show _ ++ (updatesOf _ [.toolCall _] ++ (_ ++ (updatesOf _ [.toolCallUpdate _] ++ []))) = _
    rw [@updatesOf_toolCall _ (patchApplyBeginToolCall _ _ begin') hid,
      updatesOf_toolCallUpdate hend.symm, List.map_append]
    rfl
  rw [shown_of_updates hsent, List.foldl_append]
  show some (Shown.ToolCallUpdate.act _ (parts.foldl _
    (patchRow setting.display ⟨begin'.changes, diskBegin⟩ .beforeApply .inProgress))) = _
  rw [foldl_reports hreports, act_patchApplyEnd]

/-- For concrete runs: a patch that names its file only while it is applied. -/
def noChanges : FileChanges := ⟨[], List.nodup_nil⟩

def sampleChanges : FileChanges := ⟨[("a.rs", .add "a")], List.nodup_singleton _⟩

def samplePatchBegin : Shown.PatchApplyBeginEvent := ⟨"call", noChanges, .null⟩

def samplePatchUpdated : LiveEvent :=
  .patchApplyUpdated ⟨"call", sampleChanges, .null⟩ (.ofFiles [])

def samplePatchEnd : Shown.PatchApplyEndEvent := ⟨"call", true, noChanges, .completed, .null⟩

/-- Its end keeps what the report showed. -/
theorem patch_shown_report :
    (shown (sent Setting.sample [.patchApplyBegin samplePatchBegin (.ofFiles []),
        samplePatchUpdated, .patchApplyEnd samplePatchEnd (.ofFiles [("a.rs", "a")])] {})).lookup
        "call" =
      some (patchRow .sample ⟨sampleChanges, .ofFiles []⟩ .beforeApply .completed) := by
  have happlies : AppliesPatch samplePatchBegin (.ofFiles []) [samplePatchUpdated] samplePatchEnd
      (.ofFiles [("a.rs", "a")]) [.patchApplyBegin samplePatchBegin (.ofFiles []),
        samplePatchUpdated, .patchApplyEnd samplePatchEnd (.ofFiles [("a.rs", "a")])] :=
    ⟨[], [], rfl, rfl, List.not_mem_nil, List.forall_mem_singleton.mpr fun _ => ⟨_, _, rfl⟩,
      List.forall_mem_nil _⟩
  exact patch_shown Setting.sample happlies

/-! ## The order of the files -/

/-- The one event says the same of a patch as the other, but lists it in another order. -/
inductive Reordered : LiveEvent → LiveEvent → Prop
  | same (event : LiveEvent) : Reordered event event
  | patchApplyBegin (callId : String) {changes changes' : FileChanges} (h : changes.Same changes')
      (json json' : Json) (disk : FileSystem) :
    Reordered (.patchApplyBegin ⟨callId, changes, json⟩ disk)
      (.patchApplyBegin ⟨callId, changes', json'⟩ disk)
  | patchApplyUpdated (callId : String) {changes changes' : FileChanges}
      (h : changes.Same changes') (json json' : Json) (disk : FileSystem) :
    Reordered (.patchApplyUpdated ⟨callId, changes, json⟩ disk)
      (.patchApplyUpdated ⟨callId, changes', json'⟩ disk)
  | patchApplyEnd (callId : String) (success : Bool) {changes changes' : FileChanges}
      (h : changes.Same changes') (status : Shown.PatchApplyStatus) (json json' : Json)
      (disk : FileSystem) :
    Reordered (.patchApplyEnd ⟨callId, success, changes, status, json⟩ disk)
      (.patchApplyEnd ⟨callId, success, changes', status, json'⟩ disk)

theorem Reordered.statelessUpdates_eq (display : Display) {event event' : LiveEvent}
    (h : Reordered event event') :
    (statelessUpdates display event).map Shown.SessionUpdate.withoutRaw =
      (statelessUpdates display event').map Shown.SessionUpdate.withoutRaw := by
  cases h with
  | same event => rfl
  | patchApplyBegin callId h json json' disk =>
    exact congrArg (fun call => [Shown.SessionUpdate.toolCall call])
      (h.patchApplyBegin_eq callId json json')
  | patchApplyUpdated callId h json json' disk =>
    have hupdated := congrArg (fun update => update.toList.map Shown.SessionUpdate.toolCallUpdate)
      (@FileChanges.Same.patchApplyUpdated_eq display.reader.diffy disk _ _ h callId json json')
    simp only [statelessUpdates, Option.toList_map, List.map_map] at hupdated ⊢
    exact hupdated
  | patchApplyEnd callId success h status json json' disk =>
    exact congrArg (fun update => [Shown.SessionUpdate.toolCallUpdate update])
      (h.patchApplyEnd_eq callId success status json json')

theorem Reordered.handleLive_eq {event event' : LiveEvent} (h : Reordered event event')
    (s : LiveTools) :
    (handleLive setting event s).1.map Shown.SessionUpdate.withoutRaw =
        (handleLive setting event' s).1.map Shown.SessionUpdate.withoutRaw ∧
      (handleLive setting event s).2 = (handleLive setting event' s).2 := by
  have hstateless : event.isStateless = true → event'.isStateless = true →
      s.completeBefore event.recorded = s.completeBefore event'.recorded →
      (handleLive setting event s).1.map Shown.SessionUpdate.withoutRaw =
          (handleLive setting event' s).1.map Shown.SessionUpdate.withoutRaw ∧
        (handleLive setting event s).2 = (handleLive setting event' s).2 := by
    intro hevent hevent' hcompleted
    unfold handleLive
    rw [hcompleted]
    dsimp only
    rw [handleRouted_of_isStateless hevent, handleRouted_of_isStateless hevent', List.map_append,
      List.map_append, h.statelessUpdates_eq setting.display]
    exact ⟨rfl, rfl⟩
  cases h with
  | same event => exact ⟨rfl, rfl⟩
  | patchApplyBegin | patchApplyUpdated | patchApplyEnd => exact hstateless rfl rfl rfl

/-- **The order** in which the maps of patches list their files is not seen, in any run, but in
the raw values. -/
theorem sent_eq_of_reordered (setting : Setting) {events events' : List LiveEvent}
    (h : List.Forall₂ Reordered events events') (s : LiveTools) :
    (sent setting events s).map Shown.SessionUpdate.withoutRaw =
      (sent setting events' s).map Shown.SessionUpdate.withoutRaw := by
  induction h generalizing s with
  | nil => rfl
  | cons hevent _ ih =>
    obtain ⟨hupdates, hstate⟩ := @Reordered.handleLive_eq setting _ _ hevent s
    rw [sent_cons, sent_cons, List.map_append, List.map_append, hupdates, hstate, ih]

def manyChanges : FileChanges := ⟨[("b.rs", .add "b"), ("a.rs", .add "a")], by decide⟩

def manyChanges' : FileChanges := ⟨[("a.rs", .add "a"), ("b.rs", .add "b")], by decide⟩

/-- Two files, in either order. -/
theorem sent_eq_of_reordered_pair :
    (sent Setting.sample [.patchApplyBegin ⟨"call", manyChanges, .string "b, a"⟩ (.ofFiles [])]
        {}).map Shown.SessionUpdate.withoutRaw =
      (sent Setting.sample [.patchApplyBegin ⟨"call", manyChanges', .string "a, b"⟩ (.ofFiles [])]
        {}).map Shown.SessionUpdate.withoutRaw :=
  sent_eq_of_reordered Setting.sample (.cons (@Reordered.patchApplyBegin "call" manyChanges
    manyChanges' (List.Perm.swap ..) (.string "b, a") (.string "a, b") (.ofFiles [])) .nil) {}

end Run

end CodexAcp.Thread
