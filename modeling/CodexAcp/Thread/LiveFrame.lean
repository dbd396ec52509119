import CodexAcp.Thread.LiveTools

/-!
# One tool call among others

An event is about one tool call at most, and what it shows is about that call, but
for a web search that is completed before it. So the notifications of one call, and
what is known of its command, are made by the events about it.

> `updatesOf_sent`: events about other calls send nothing about this one.
> `lookup_final`: and leave its command as it is.
-/

namespace CodexAcp.Thread

open CodexAcp.Lib CodexAcp.Protocol CodexAcp.Boundary CodexAcp.Boundary.Shown

/-- The call an event of a subagent is about. -/
def collabCallId : CollabEvent → String
  | .spawnBegin event => event.callId
  | .spawnEnd event => event.callId
  | .interactionBegin event => event.callId
  | .interactionEnd event => event.callId
  | .waitingBegin event => event.callId
  | .waitingEnd event => event.callId
  | .closeBegin event => event.callId
  | .closeEnd event => event.callId
  | .resumeBegin event => event.callId
  | .resumeEnd event => event.callId

/-- The call an event is about. -/
def eventCallId : LiveEvent → Option String
  | .execApprovalRequest event _ => some event.callId
  | .execCommandBegin event _ => some event.callId
  | .execCommandOutputDelta event _ => some event.callId
  | .terminalInteraction event _ => some event.callId
  | .execCommandEnd event _ => some event.callId
  | .webSearchBegin callId | .webSearchEnd callId _ _ => some callId
  | .guardianAssessment event => some (Guardian.guardianAssessmentToolCallId event.id)
  | .mcpToolCallBegin callId _ | .mcpToolCallEnd callId _ => some callId
  | .dynamicToolCallRequest callId _ _ => some callId
  | .dynamicToolCallResponse event => some event.callId
  | .imageGenerationBegin callId => some callId
  | .imageGenerationEnd event => some event.callId
  | .viewImageToolCall callId _ => some callId
  | .patchApplyBegin event _ => some event.callId
  | .patchApplyUpdated event _ => some event.callId
  | .patchApplyEnd event _ => some event.callId
  | .collab event => some (collabCallId event)
  | .other _ => none

/-- The call is not what the events are about. -/
def Unmentioned (callId : String) (events : List LiveEvent) : Prop :=
  ∀ event ∈ events, eventCallId event ≠ some callId

theorem Unmentioned.noSearch {callId : String} {events : List LiveEvent}
    (h : Unmentioned callId events) : .webSearchBegin callId ∉ events :=
  fun hmem => h _ hmem rfl

namespace LiveTools

variable {setting : Setting} {disk : FileSystem}

/-- A command is kept under the id of its tool call. -/
def Keyed (s : LiveTools) : Prop :=
  ∀ callId command, s.commands.lookup callId = some command → command.toolCallId = callId

theorem keyed_empty : Keyed {} := by
  intro callId command h
  cases h

/-! ## What one event shows -/

theorem callId_statelessUpdates (display : Display) (event : LiveEvent) :
    ∀ update ∈ statelessUpdates display event, eventCallId event = some update.callId := by
  intro update hupdate
  cases event
  case patchApplyUpdated event disk =>
    obtain ⟨change, hchange, rfl⟩ := List.mem_map.mp hupdate
    rw [Option.mem_toList] at hchange
    unfold patchApplyUpdatedToolCallUpdate at hchange
    split at hchange
    · cases hchange
    · cases hchange
      rfl
  case patchApplyEnd event disk =>
    cases List.mem_singleton.mp hupdate
    show some event.callId = some (patchApplyEndToolCallUpdate _ _ event).callId
    unfold patchApplyEndToolCallUpdate
    dsimp only
    split <;> rfl
  case collab event =>
    cases List.mem_singleton.mp hupdate
    cases event <;> rfl
  case execApprovalRequest | execCommandBegin | execCommandOutputDelta | terminalInteraction
      | execCommandEnd | webSearchBegin | webSearchEnd | guardianAssessment | other =>
    exact absurd hupdate List.not_mem_nil
  all_goals
    cases List.mem_singleton.mp hupdate
    rfl

theorem callId_streamedUpdates {callId : String} (data : String) {command : Shown.ActiveCommand}
    (h : command.toolCallId = callId) :
    ∀ update ∈ streamedUpdates setting disk callId data command, update.callId = callId := by
  intro update hupdate
  unfold streamedUpdates at hupdate
  dsimp only at hupdate
  split at hupdate
  · cases List.mem_singleton.mp hupdate
    show (command.renderStreamingUpdate _ _ _ _ _).callId = callId
    unfold Shown.ActiveCommand.renderStreamingUpdate
    split <;> exact h
  · exact absurd hupdate List.not_mem_nil

theorem callId_streamActiveCommandOutput {s : LiveTools} (h : s.Keyed) (callId data : String) :
    ∀ update ∈ (s.streamActiveCommandOutput setting disk callId data).1, update.callId = callId := by
  intro update hupdate
  unfold streamActiveCommandOutput at hupdate
  split at hupdate
  · exact absurd hupdate List.not_mem_nil
  next command hcommand =>
    have hkey : ({ command with output := command.output ++ data } :
        Shown.ActiveCommand).toolCallId = callId := h callId command hcommand
    exact callId_streamedUpdates data hkey update hupdate

theorem callId_execCommandEnd {s : LiveTools} (h : s.Keyed) (event : ExecCommandEndEvent) :
    ∀ update ∈ (s.execCommandEnd setting event disk).1, update.callId = event.callId := by
  intro update hupdate
  unfold execCommandEnd removeActiveCommand at hupdate
  split at hupdate
  next command _ hcommand =>
    have hkey := h event.callId command (congrArg Prod.fst hcommand)
    rcases List.mem_append.mp hupdate with hmem | hmem
    · obtain ⟨change, hchange, rfl⟩ := List.mem_map.mp hmem
      rw [Option.mem_toList] at hchange
      obtain ⟨data, -, rfl⟩ := Option.map_eq_some_iff.mp hchange
      show (command.renderStreamingUpdate _ _ _ _ _).callId = event.callId
      unfold Shown.ActiveCommand.renderStreamingUpdate
      split <;> exact hkey
    · cases List.mem_singleton.mp hmem
      exact hkey
  next => exact absurd hupdate List.not_mem_nil

/-- The tool call of an assessment. -/
theorem callId_assess (event : Guardian.GuardianAssessmentEvent) (s : LiveTools) :
    ∀ update ∈ (s.assess setting event).1,
      update.callId = Guardian.guardianAssessmentToolCallId event.id := by
  intro update hupdate
  obtain ⟨hcallId, -, -⟩ :=
    guardianAssessment_effect setting.display.shlexTryJoin event s.guardianAssessments
  rw [← hcallId, List.mem_singleton.mp hupdate]
  rfl

/-- **What an event shows** is about the call it is about. -/
theorem callId_handleRouted {s : LiveTools} (h : s.Keyed) (event : LiveEvent) :
    ∀ update ∈ (s.handleRouted setting event).1, eventCallId event = some update.callId := by
  intro update hupdate
  cases event
  case execApprovalRequest => exact absurd hupdate List.not_mem_nil
  case execCommandBegin =>
    cases List.mem_singleton.mp hupdate
    rfl
  case execCommandOutputDelta event disk =>
    exact congrArg some (callId_streamActiveCommandOutput h _ _ update hupdate).symm
  case terminalInteraction event disk =>
    exact congrArg some (callId_streamActiveCommandOutput h _ _ update hupdate).symm
  case execCommandEnd event disk =>
    exact congrArg some (callId_execCommandEnd h event update hupdate).symm
  case webSearchBegin | webSearchEnd =>
    cases List.mem_singleton.mp hupdate
    rfl
  case guardianAssessment event =>
    exact congrArg some (callId_assess event s update hupdate).symm
  all_goals exact callId_statelessUpdates setting.display _ update hupdate

theorem callId_completeBefore (event : EventMsg) (s : LiveTools) :
    ∀ update ∈ (s.completeBefore event).1, s.webSearch = some update.callId := by
  intro update hupdate
  unfold completeBefore at hupdate
  split at hupdate
  · obtain ⟨callId, hcallId, rfl⟩ := List.mem_map.mp hupdate
    exact Option.mem_toList.mp hcallId
  · exact absurd hupdate List.not_mem_nil

/-! ## What one event changes -/

theorem commands_completeBefore (event : EventMsg) (s : LiveTools) :
    (s.completeBefore event).2.commands = s.commands := by
  unfold completeBefore
  split <;> rfl

theorem webSearch_completeBefore (event : EventMsg) (s : LiveTools) :
    (s.completeBefore event).2.webSearch = s.webSearch ∨
      (s.completeBefore event).2.webSearch = none := by
  unfold completeBefore
  split
  · exact .inr rfl
  · exact .inl rfl

/-- The commands after an event: as they were, but for the one the event is about. -/
theorem lookup_handleRouted {event : LiveEvent} {callId : String}
    (h : eventCallId event ≠ some callId) (s : LiveTools) :
    (s.handleRouted setting event).2.commands.lookup callId = s.commands.lookup callId := by
  have hne : ∀ callId', eventCallId event = some callId' → callId ≠ callId' :=
    fun callId' hevent heq => h (heq ▸ hevent)
  cases event
  case execApprovalRequest event disk =>
    show (s.execApproval setting event disk).commands.lookup callId = _
    unfold execApproval
    split
    · rfl
    · exact AList.lookup_insert_ne (hne _ rfl)
  case execCommandBegin event disk => exact AList.lookup_insert_ne (hne _ rfl)
  case execCommandOutputDelta event disk =>
    show (s.streamActiveCommandOutput setting _ _ _).2.commands.lookup callId = _
    unfold streamActiveCommandOutput
    split
    · rfl
    · exact AList.lookup_insert_ne (hne _ rfl)
  case terminalInteraction event disk =>
    show (s.streamActiveCommandOutput setting _ _ _).2.commands.lookup callId = _
    unfold streamActiveCommandOutput
    split
    · rfl
    · exact AList.lookup_insert_ne (hne _ rfl)
  case execCommandEnd event disk =>
    have herase : (s.removeActiveCommand event.callId).2.commands.lookup callId =
        s.commands.lookup callId := AList.lookup_erase_ne (hne _ rfl)
    show (s.execCommandEnd setting event disk).2.commands.lookup callId = _
    unfold execCommandEnd
    split
    next hremove => rwa [hremove] at herase
    next hremove => rwa [hremove] at herase
  all_goals rfl

theorem Keyed.insertActiveCommand {s : LiveTools} (h : s.Keyed) {callId : String}
    {command : Shown.ActiveCommand} (hcommand : command.toolCallId = callId) :
    (s.insertActiveCommand callId command).Keyed := by
  intro callId' command' hlookup
  rcases Dict.lookup_insert_eq_some.mp hlookup with ⟨rfl, rfl⟩ | ⟨-, hold⟩
  · exact hcommand
  · exact h callId' command' hold

theorem Keyed.streamActiveCommandOutput {s : LiveTools} (h : s.Keyed) (callId data : String) :
    (s.streamActiveCommandOutput setting disk callId data).2.Keyed := by
  unfold LiveTools.streamActiveCommandOutput
  split
  · exact h
  next command hcommand => exact h.insertActiveCommand (h callId command hcommand)

theorem Keyed.removeActiveCommand {s : LiveTools} (h : s.Keyed) (callId : String) :
    (s.removeActiveCommand callId).2.Keyed :=
  fun callId' command hlookup => h callId' command (Dict.lookup_erase_eq_some.mp hlookup).2

theorem Keyed.completeBefore {s : LiveTools} (h : s.Keyed) (event : EventMsg) :
    (s.completeBefore event).2.Keyed := by
  intro callId command hlookup
  rw [commands_completeBefore] at hlookup
  exact h callId command hlookup

theorem Keyed.handleRouted {s : LiveTools} (h : s.Keyed) (event : LiveEvent) :
    (s.handleRouted setting event).2.Keyed := by
  cases event
  case execApprovalRequest event disk =>
    show (s.execApproval setting event disk).Keyed
    unfold execApproval
    split
    · exact h
    · exact h.insertActiveCommand rfl
  case execCommandBegin event disk => exact h.insertActiveCommand rfl
  case execCommandOutputDelta event disk => exact h.streamActiveCommandOutput _ _
  case terminalInteraction event disk => exact h.streamActiveCommandOutput _ _
  case execCommandEnd event disk =>
    have hremove := h.removeActiveCommand event.callId
    show (s.execCommandEnd setting event disk).2.Keyed
    unfold execCommandEnd
    split
    next hremoved => rwa [hremoved] at hremove
    next hremoved => rwa [hremoved] at hremove
  all_goals exact h

theorem Keyed.handleLive {s : LiveTools} (h : s.Keyed) (event : LiveEvent) :
    (handleLive setting event s).2.Keyed :=
  (h.completeBefore event.recorded).handleRouted event

/-- The web search that is taken to be going on is the one that began last. -/
theorem webSearch_handleLive {event : LiveEvent} {s : LiveTools} {callId : String}
    (h : (handleLive setting event s).2.webSearch = some callId) :
    s.webSearch = some callId ∨ event = .webSearchBegin callId := by
  have hrouted : ∀ s' : LiveTools, (s'.handleRouted setting event).2.webSearch = some callId →
      s'.webSearch = some callId ∨ event = .webSearchBegin callId := by
    intro s' hsearch
    cases event
    case webSearchBegin callId' =>
      cases hsearch
      exact .inr rfl
    case execApprovalRequest event disk =>
      change (s'.execApproval setting event disk).webSearch = _ at hsearch
      unfold execApproval at hsearch
      split at hsearch <;> exact .inl hsearch
    case execCommandOutputDelta event disk =>
      change (s'.streamActiveCommandOutput setting _ _ _).2.webSearch = _ at hsearch
      unfold streamActiveCommandOutput at hsearch
      split at hsearch <;> exact .inl hsearch
    case terminalInteraction event disk =>
      change (s'.streamActiveCommandOutput setting _ _ _).2.webSearch = _ at hsearch
      unfold streamActiveCommandOutput at hsearch
      split at hsearch <;> exact .inl hsearch
    case execCommandEnd event disk =>
      change (s'.execCommandEnd setting event disk).2.webSearch = _ at hsearch
      unfold execCommandEnd removeActiveCommand at hsearch
      split at hsearch
      next hremoved => exact .inl ((congrArg (·.2.webSearch) hremoved).trans hsearch)
      next hremoved => exact .inl ((congrArg (·.2.webSearch) hremoved).trans hsearch)
    all_goals exact .inl hsearch
  rcases hrouted _ h with hsearch | hbegin
  · rcases webSearch_completeBefore event.recorded s with hsame | hnone
    · exact .inl (hsame.symm.trans hsearch)
    · cases hnone.symm.trans hsearch
  · exact .inr hbegin

/-! ## Runs -/

theorem Keyed.final {s : LiveTools} (h : s.Keyed) (events : List LiveEvent) :
    ((LiveTools.handleLive setting).final s events).Keyed := by
  induction events generalizing s with
  | nil => exact h
  | cons event events ih => exact ih (h.handleLive event)

/-- The call is no web search, so far. -/
structure Apart (callId : String) (s : LiveTools) : Prop where
  keyed : s.Keyed
  search : s.webSearch ≠ some callId

theorem apart_empty (callId : String) : Apart callId {} := ⟨keyed_empty, nofun⟩

theorem Apart.handleLive {callId : String} {s : LiveTools} (h : Apart callId s)
    {event : LiveEvent} (hevent : event ≠ .webSearchBegin callId) :
    Apart callId (handleLive setting event s).2 :=
  ⟨h.keyed.handleLive event, fun hsearch => (webSearch_handleLive hsearch).elim h.search hevent⟩

theorem Apart.final {callId : String} {s : LiveTools} (h : Apart callId s)
    {events : List LiveEvent} (hevents : .webSearchBegin callId ∉ events) :
    Apart callId ((LiveTools.handleLive setting).final s events) := by
  induction events generalizing s with
  | nil => exact h
  | cons event events ih =>
    rw [List.mem_cons, not_or] at hevents
    exact ih (h.handleLive (Ne.symm hevents.1)) hevents.2

/-- What an event shows of a call that is no web search is what it shows itself. -/
theorem updatesOf_handleLive {callId : String} {s : LiveTools} (h : Apart callId s)
    (event : LiveEvent) :
    updatesOf callId (handleLive setting event s).1 =
      updatesOf callId ((s.completeBefore event.recorded).2.handleRouted setting event).1 := by
  have hcompleted : updatesOf callId (s.completeBefore event.recorded).1 = [] := by
    refine List.filter_eq_nil_iff.mpr fun update hupdate hid => ?_
    refine h.search ((callId_completeBefore _ s update hupdate).trans ?_)
    rw [of_decide_eq_true hid]
  show updatesOf callId ((s.completeBefore event.recorded).1 ++ _) = _
  rw [updatesOf, List.filter_append]
  exact (congrArg (· ++ _) hcompleted).trans (List.nil_append _)

theorem updatesOf_handleRouted_of_ne {callId : String} {s : LiveTools} (h : s.Keyed)
    {event : LiveEvent} (hevent : eventCallId event ≠ some callId) :
    updatesOf callId (s.handleRouted setting event).1 = [] := by
  refine List.filter_eq_nil_iff.mpr fun update hupdate hid => hevent ?_
  rw [callId_handleRouted h event update hupdate, of_decide_eq_true hid]

theorem updatesOf_handleLive_of_ne {callId : String} {s : LiveTools} (h : Apart callId s)
    {event : LiveEvent} (hevent : eventCallId event ≠ some callId) :
    updatesOf callId (handleLive setting event s).1 = [] := by
  rw [updatesOf_handleLive h, updatesOf_handleRouted_of_ne (h.keyed.completeBefore _) hevent]

theorem lookup_handleLive_of_ne {callId : String} {event : LiveEvent}
    (hevent : eventCallId event ≠ some callId) (s : LiveTools) :
    (handleLive setting event s).2.commands.lookup callId = s.commands.lookup callId := by
  show ((s.completeBefore event.recorded).2.handleRouted setting event).2.commands.lookup _ = _
  rw [lookup_handleRouted hevent, commands_completeBefore]

/-- **Other calls.** Events about other calls send nothing about this one. -/
theorem updatesOf_sent {callId : String} {s : LiveTools} (h : Apart callId s)
    {events : List LiveEvent} (hevents : Unmentioned callId events) :
    updatesOf callId (sent setting events s) = [] := by
  induction events generalizing s with
  | nil => rfl
  | cons event events ih =>
    obtain ⟨hevent, hevents⟩ := List.forall_mem_cons.mp hevents
    have hnext : Apart callId (handleLive setting event s).2 :=
      h.handleLive fun heq => hevent (heq ▸ rfl)
    show updatesOf callId ((handleLive setting event s).1 ++ sent setting events _) = []
    rw [updatesOf, List.filter_append]
    exact (congrArg₂ (· ++ ·) (updatesOf_handleLive_of_ne h hevent) (ih hnext hevents)).trans rfl

/-- And they leave its command as it is. -/
theorem lookup_final {callId : String} {events : List LiveEvent}
    (hevents : Unmentioned callId events) (s : LiveTools) :
    ((handleLive setting).final s events).commands.lookup callId = s.commands.lookup callId := by
  induction events generalizing s with
  | nil => rfl
  | cons event events ih =>
    obtain ⟨hevent, hevents⟩ := List.forall_mem_cons.mp hevents
    rw [Transducer.final_cons, ih hevents, lookup_handleLive_of_ne hevent]

theorem sent_append (events events' : List LiveEvent) (s : LiveTools) :
    sent setting (events ++ events') s =
      sent setting events s ++ sent setting events' ((handleLive setting).final s events) :=
  Transducer.trace_append s events events'

theorem sent_cons (event : LiveEvent) (events : List LiveEvent) (s : LiveTools) :
    sent setting (event :: events) s =
      (handleLive setting event s).1 ++ sent setting events (handleLive setting event s).2 := rfl

end LiveTools

end CodexAcp.Thread
