import CodexAcp.Lib.Table
import CodexAcp.Thread.LiveFrame

/-!
# Tool calls the editor knows

An editor can only change a tool call it was told of, by a tool call of its own or by
a request for permission. Commands, the web search and assessments are kept track of: of
one that is not known nothing is sent. The ends of all other calls, the query of a web
search and the reports on a patch are sent as they come (`changesCall`). So whether an
editor is ever sent a change of a tool call it does not know depends on those alone:

> `grounded_iff_changes`: it is not, in any run, exactly if each of those comes after an
> event that brings its tool call.
-/

namespace CodexAcp.Thread

open CodexAcp.Lib CodexAcp.Protocol CodexAcp.Boundary CodexAcp.Boundary.Shown

/-! ## What the editor is told -/

/-- What a message to the editor does to its tool calls. -/
inductive Mention where
  | introduced (callId : String)
  | updated (callId : String)
  deriving DecidableEq, Repr

namespace Mention

def introduces : Mention → Option String
  | introduced callId => some callId
  | updated _ => none

def refersTo : Mention → Option String
  | introduced _ => none
  | updated callId => some callId

def ofUpdate : Shown.SessionUpdate → Mention
  | .toolCall call => introduced call.callId
  | .toolCallUpdate update => updated update.callId

theorem introduces_ofUpdate {update : Shown.SessionUpdate} {callId : String} :
    (ofUpdate update).introduces = some callId ↔
      ∃ call, update = .toolCall call ∧ call.callId = callId := by
  cases update with
  | toolCall call =>
    constructor
    · intro h
      exact ⟨call, rfl, Option.some.inj h⟩
    · rintro ⟨_, heq, hid⟩
      cases heq
      exact congrArg some hid
  | toolCallUpdate update => exact ⟨nofun, nofun⟩

theorem refersTo_ofUpdate {update : Shown.SessionUpdate} {callId : String} :
    (ofUpdate update).refersTo = some callId ↔
      ∃ change, update = .toolCallUpdate change ∧ change.callId = callId := by
  cases update with
  | toolCall call => exact ⟨nofun, nofun⟩
  | toolCallUpdate change =>
    constructor
    · intro h
      exact ⟨change, rfl, Option.some.inj h⟩
    · rintro ⟨_, heq, hid⟩
      cases heq
      exact congrArg some hid

end Mention

/-- The tool call a request for permission shows. -/
def askedCall (codex : Codex) (event : LiveEvent) : Option String :=
  (approvalRequest codex event.recorded).map fun request => request.permissionRequest.toolCallId

/-- What the editor is told by the answer to an event: what is sent, and then what is asked. -/
def mentions (codex : Codex) (event : LiveEvent) (updates : List Shown.SessionUpdate) :
    List Mention :=
  updates.map Mention.ofUpdate ++ (askedCall codex event).toList.map Mention.introduced

/-- What the editor is told in a run. -/
def told (setting : LiveTools.Setting) (events : List LiveEvent) (s : LiveTools) : List Mention :=
  (LiveTools.handleLive setting).trace (mentions setting.codex) s events

/-! ## What the events are about -/

/-- The tool call of a subagent that an event begins. -/
def beginsCollab : CollabEvent → Option String
  | .spawnBegin event => some event.callId
  | .interactionBegin event => some event.callId
  | .waitingBegin event => some event.callId
  | .closeBegin event => some event.callId
  | .resumeBegin event => some event.callId
  | .spawnEnd _ | .interactionEnd _ | .waitingEnd _ | .closeEnd _ | .resumeEnd _ => none

/-- The tool call an event begins; each report on an assessment begins its own. -/
def begins : LiveEvent → Option String
  | .execCommandBegin event _ => some event.callId
  | .webSearchBegin callId => some callId
  | .guardianAssessment event => some (Guardian.guardianAssessmentToolCallId event.id)
  | .mcpToolCallBegin callId _ | .dynamicToolCallRequest callId _ _ => some callId
  | .imageGenerationBegin callId | .viewImageToolCall callId _ => some callId
  | .patchApplyBegin event _ => some event.callId
  | .collab event => beginsCollab event
  | _ => none

/-- The tool call an event brings to the editor, by beginning it or asking about it. -/
def brings (codex : Codex) (event : LiveEvent) : Option String :=
  (askedCall codex event).or (begins event)

/-- The tool call of a subagent that an event ends. -/
def endsCollab : CollabEvent → Option String
  | .spawnEnd event => some event.callId
  | .interactionEnd event => some event.callId
  | .waitingEnd event => some event.callId
  | .closeEnd event => some event.callId
  | .resumeEnd event => some event.callId
  | .spawnBegin _ | .interactionBegin _ | .waitingBegin _ | .closeBegin _ | .resumeBegin _ => none

/-- The tool call an event changes, whatever came before it. -/
def changesCall : LiveEvent → Option String
  | .webSearchEnd callId _ _ | .mcpToolCallEnd callId _ => some callId
  | .dynamicToolCallResponse event => some event.callId
  | .imageGenerationEnd event => some event.callId
  | .patchApplyUpdated event _ => if event.changes.isEmpty then none else some event.callId
  | .patchApplyEnd event _ => some event.callId
  | .collab event => endsCollab event
  | _ => none

namespace LiveTools

variable {setting : Setting} {disk : FileSystem}

/-- What is kept track of: commands, the web search, and assessments that go on. -/
def Watches (s : LiveTools) (callId : String) : Prop :=
  (s.commands.lookup callId).isSome = true ∨ s.webSearch = some callId ∨
    ∃ id ∈ s.guardianAssessments, Guardian.guardianAssessmentToolCallId id = callId

theorem not_watches_empty (callId : String) : ¬ Watches {} callId := by
  rintro (h | h | ⟨id, hid, -⟩)
  · cases h
  · cases h
  · exact absurd hid (Finset.notMem_empty id)

/-! ## One event -/

/-- What an event is answered with, by itself. -/
structure Answers (s : LiveTools) (event : LiveEvent) (updates : List Shown.SessionUpdate) :
    Prop where
  introduced : ∀ call, .toolCall call ∈ updates → begins event = some call.callId
  updated : ∀ update, .toolCallUpdate update ∈ updates →
    s.Watches update.callId ∨ changesCall event = some update.callId
  brought : ∀ callId, begins event = some callId →
    s.Watches callId ∨ ∃ call, .toolCall call ∈ updates ∧ call.callId = callId
  changed : ∀ callId, changesCall event = some callId →
    ∃ update, updates = [.toolCallUpdate update] ∧ update.callId = callId

theorem answers_of_silent {s : LiveTools} {event : LiveEvent}
    {updates : List Shown.SessionUpdate} (hbegins : begins event = none)
    (hchanges : changesCall event = none)
    (h : ∀ update ∈ updates, update.isToolCall = false ∧ s.Watches update.callId) :
    Answers s event updates where
  introduced _ hcall := nomatch (h _ hcall).1
  updated _ hupdate := .inl (h _ hupdate).2
  brought _ hcallId := nomatch hbegins.symm.trans hcallId
  changed _ hcallId := nomatch hchanges.symm.trans hcallId

theorem answers_of_begin {s : LiveTools} {event : LiveEvent} {call : Shown.ToolCall}
    (hbegins : begins event = some call.callId) (hchanges : changesCall event = none) :
    Answers s event [.toolCall call] where
  introduced call' hcall' := by
    cases List.mem_singleton.mp hcall'
    exact hbegins
  updated _ hupdate := nomatch List.mem_singleton.mp hupdate
  brought _ hcallId :=
    .inr ⟨call, List.mem_singleton_self _, Option.some.inj (hbegins.symm.trans hcallId)⟩
  changed _ hcallId := nomatch hchanges.symm.trans hcallId

theorem answers_of_end {s : LiveTools} {event : LiveEvent} {update : Shown.ToolCallUpdate}
    (hbegins : begins event = none) (hchanges : changesCall event = some update.callId) :
    Answers s event [.toolCallUpdate update] where
  introduced _ hcall := nomatch List.mem_singleton.mp hcall
  updated update' hupdate' := by
    cases List.mem_singleton.mp hupdate'
    exact .inr hchanges
  brought _ hcallId := nomatch hbegins.symm.trans hcallId
  changed _ hcallId := ⟨update, rfl, Option.some.inj (hchanges.symm.trans hcallId)⟩

/-- Output of a command that is not known is not shown. -/
theorem silent_streamActiveCommandOutput {s : LiveTools} (h : s.Keyed) (callId data : String) :
    ∀ update ∈ (s.streamActiveCommandOutput setting disk callId data).1,
      update.isToolCall = false ∧ s.Watches update.callId := by
  intro update hupdate
  have hid := callId_streamActiveCommandOutput h callId data update hupdate
  unfold streamActiveCommandOutput at hupdate
  split at hupdate
  · exact absurd hupdate List.not_mem_nil
  next command hcommand =>
    unfold streamedUpdates at hupdate
    dsimp only at hupdate
    split at hupdate
    · cases List.mem_singleton.mp hupdate
      refine ⟨rfl, .inl ?_⟩
      rw [hid, hcommand]
      rfl
    · exact absurd hupdate List.not_mem_nil

/-- Nor is its end. -/
theorem silent_execCommandEnd {s : LiveTools} (h : s.Keyed) (event : ExecCommandEndEvent) :
    ∀ update ∈ (s.execCommandEnd setting event disk).1,
      update.isToolCall = false ∧ s.Watches update.callId := by
  intro update hupdate
  have hid := callId_execCommandEnd h event update hupdate
  unfold execCommandEnd removeActiveCommand at hupdate
  split at hupdate
  next command _ hcommand =>
    have hknown : s.Watches update.callId := by
      rw [hid]
      exact .inl (Option.isSome_iff_exists.mpr ⟨command, congrArg Prod.fst hcommand⟩)
    rcases List.mem_append.mp hupdate with hmem | hmem
    · obtain ⟨change, -, rfl⟩ := List.mem_map.mp hmem
      exact ⟨rfl, hknown⟩
    · cases List.mem_singleton.mp hmem
      exact ⟨rfl, hknown⟩
  next => exact absurd hupdate List.not_mem_nil

/-- A report on an assessment introduces its tool call, unless that goes on. -/
theorem answers_assess (event : Guardian.GuardianAssessmentEvent) (s : LiveTools) :
    Answers s (.guardianAssessment event) (s.assess setting event).1 := by
  obtain ⟨hcallId, -, hisToolCall⟩ :=
    guardianAssessment_effect setting.display.shlexTryJoin event s.guardianAssessments
  show Answers s _ [
    (guardianAssessment setting.display.shlexTryJoin event s.guardianAssessments).1]
  generalize (guardianAssessment setting.display.shlexTryJoin event s.guardianAssessments).1 =
    effect at hcallId hisToolCall
  cases effect with
  | toolCall call => exact answers_of_begin (congrArg some hcallId.symm) rfl
  | toolCallUpdate update =>
    have hactive : s.Watches update.callId :=
      .inr (.inr ⟨event.id, not_not.mp (of_decide_eq_false hisToolCall.symm), hcallId.symm⟩)
    exact
      { introduced := fun _ hcall => nomatch List.mem_singleton.mp hcall
        updated := fun update' hupdate' => by
          cases List.mem_singleton.mp hupdate'
          exact .inl hactive
        brought := fun callId hbegins => .inl (by
          cases hbegins
          exact hcallId ▸ hactive)
        changed := fun _ hchanges => nomatch hchanges }

theorem answers_patchApplyUpdated (event : Shown.PatchApplyUpdatedEvent) (s : LiveTools) :
    Answers s (.patchApplyUpdated event disk)
      (statelessUpdates setting.display (.patchApplyUpdated event disk)) := by
  show Answers s _ ((patchApplyUpdatedToolCallUpdate _ _ event).toList.map _)
  unfold patchApplyUpdatedToolCallUpdate
  split
  next hempty => exact answers_of_silent rfl (if_pos hempty) (List.forall_mem_nil _)
  next hfiles => exact answers_of_end rfl (if_neg hfiles)

theorem answers_patchApplyEnd (event : Shown.PatchApplyEndEvent) (s : LiveTools) :
    Answers s (.patchApplyEnd event disk)
      (statelessUpdates setting.display (.patchApplyEnd event disk)) := by
  show Answers s _ [.toolCallUpdate (patchApplyEndToolCallUpdate _ _ event)]
  unfold patchApplyEndToolCallUpdate
  dsimp only
  split
  · exact answers_of_end rfl rfl
  · exact answers_of_end rfl rfl

/-- What completes a web search is about the one that was kept track of. -/
theorem silent_completeBefore (s : LiveTools) (event : EventMsg) :
    ∀ update ∈ (s.completeBefore event).1,
      update.isToolCall = false ∧ s.Watches update.callId := by
  intro update hupdate
  refine ⟨?_, .inr (.inl (callId_completeBefore event s update hupdate))⟩
  unfold completeBefore at hupdate
  split at hupdate
  · obtain ⟨callId, -, rfl⟩ := List.mem_map.mp hupdate
    rfl
  · exact absurd hupdate List.not_mem_nil

/-- **One event**, by itself. -/
theorem answers_handleRouted {s : LiveTools} (h : s.Keyed) (event : LiveEvent) :
    Answers s event (s.handleRouted setting event).1 := by
  cases event
  case execApprovalRequest => exact answers_of_silent rfl rfl (List.forall_mem_nil _)
  case other => exact answers_of_silent rfl rfl (List.forall_mem_nil _)
  case execCommandOutputDelta event disk =>
    exact answers_of_silent rfl rfl (silent_streamActiveCommandOutput h _ _)
  case terminalInteraction event disk =>
    exact answers_of_silent rfl rfl (silent_streamActiveCommandOutput h _ _)
  case execCommandEnd event disk => exact answers_of_silent rfl rfl (silent_execCommandEnd h event)
  case guardianAssessment event => exact answers_assess event s
  case patchApplyUpdated event disk => exact answers_patchApplyUpdated event s
  case patchApplyEnd event disk => exact answers_patchApplyEnd event s
  case collab event =>
    cases event <;> first | exact answers_of_begin rfl rfl | exact answers_of_end rfl rfl
  all_goals first | exact answers_of_begin rfl rfl | exact answers_of_end rfl rfl

/-! ## What is kept track of -/

/-- What begins a tool call does not ask about one. -/
theorem brings_of_begins {codex : Codex} {event : LiveEvent} {callId : String}
    (h : begins event = some callId) : brings codex event = some callId := by
  have hasked : askedCall codex event = none := by
    cases event
    case execApprovalRequest => cases h
    case other => cases h
    case collab event => cases event <;> rfl
    all_goals rfl
  rw [brings, hasked, Option.none_or, h]

/-- A command becomes known when it is asked about and when it begins. -/
theorem commands_handleRouted {event : LiveEvent} {s : LiveTools} {callId : String}
    (h : ((s.handleRouted setting event).2.commands.lookup callId).isSome = true) :
    (s.commands.lookup callId).isSome = true ∨ brings setting.codex event = some callId := by
  by_cases hid : eventCallId event = some callId
  case neg =>
    rw [lookup_handleRouted hid] at h
    exact .inl h
  cases event
  case execApprovalRequest event disk =>
    cases hid
    change ((s.execApproval setting event disk).commands.lookup _).isSome = true at h
    unfold execApproval at h
    split at h
    · exact .inl h
    next hcontent =>
      refine .inr ?_
      have hasked : askedCall setting.codex (.execApprovalRequest event disk) = some event.callId := by
        show Option.map _ (approvalRequest setting.codex (.execApprovalRequest event)) = _
        rw [approvalRequest, execApprovalInteraction, hcontent]
        rfl
      rw [brings, hasked]
      rfl
  case execCommandBegin event disk =>
    cases hid
    exact .inr rfl
  case execCommandOutputDelta event disk =>
    cases hid
    change ((s.streamActiveCommandOutput setting _ _ _).2.commands.lookup _).isSome = true at h
    unfold streamActiveCommandOutput at h
    split at h
    · exact .inl h
    next hknown => exact .inl (Option.isSome_iff_exists.mpr ⟨_, hknown⟩)
  case terminalInteraction event disk =>
    cases hid
    change ((s.streamActiveCommandOutput setting _ _ _).2.commands.lookup _).isSome = true at h
    unfold streamActiveCommandOutput at h
    split at h
    · exact .inl h
    next hknown => exact .inl (Option.isSome_iff_exists.mpr ⟨_, hknown⟩)
  case execCommandEnd event disk =>
    cases hid
    change ((s.execCommandEnd setting event disk).2.commands.lookup _).isSome = true at h
    have herase : (s.removeActiveCommand event.callId).2.commands.lookup event.callId = none :=
      AList.lookup_erase _ _
    unfold execCommandEnd at h
    split at h
    next hremoved =>
      rw [hremoved] at herase
      rw [herase] at h
      cases h
    next hremoved =>
      rw [hremoved] at herase
      rw [herase] at h
      cases h
  all_goals exact .inl h

/-- An assessment goes on after a report on it. -/
theorem guardianAssessments_handleRouted {event : LiveEvent} {s : LiveTools} {id : String}
    (h : id ∈ (s.handleRouted setting event).2.guardianAssessments) :
    id ∈ s.guardianAssessments ∨
      begins event = some (Guardian.guardianAssessmentToolCallId id) := by
  cases event
  case guardianAssessment event =>
    have hafter : id ∈ (guardianAssessment setting.display.shlexTryJoin event
      s.guardianAssessments).2 := h
    rw [mem_guardianAssessment] at hafter
    split at hafter
    next hid => exact .inr (congrArg (some <| Guardian.guardianAssessmentToolCallId ·) hid)
    next => exact .inl hafter
  case execApprovalRequest event disk =>
    change id ∈ (s.execApproval setting event disk).guardianAssessments at h
    unfold execApproval at h
    split at h <;> exact .inl h
  case execCommandOutputDelta event disk =>
    change id ∈ (s.streamActiveCommandOutput setting _ _ _).2.guardianAssessments at h
    unfold streamActiveCommandOutput at h
    split at h <;> exact .inl h
  case terminalInteraction event disk =>
    change id ∈ (s.streamActiveCommandOutput setting _ _ _).2.guardianAssessments at h
    unfold streamActiveCommandOutput at h
    split at h <;> exact .inl h
  case execCommandEnd event disk =>
    change id ∈ (s.execCommandEnd setting event disk).2.guardianAssessments at h
    unfold execCommandEnd removeActiveCommand at h
    split at h
    next hremoved => exact .inl (congrArg (·.2.guardianAssessments) hremoved ▸ h)
    next hremoved => exact .inl (congrArg (·.2.guardianAssessments) hremoved ▸ h)
  all_goals exact .inl h

theorem watches_completeBefore {event : EventMsg} {s : LiveTools} {callId : String}
    (h : (s.completeBefore event).2.Watches callId) : s.Watches callId := by
  unfold completeBefore at h
  split at h
  · exact h.imp_right (Or.imp_left nofun)
  · exact h

/-- Nothing is kept track of that was not brought. -/
theorem watches_handleLive {event : LiveEvent} {s : LiveTools} {callId : String}
    (h : (handleLive setting event s).2.Watches callId) :
    s.Watches callId ∨ brings setting.codex event = some callId := by
  rcases h with hcommand | hsearch | ⟨id, hid, hcallId⟩
  · have hrouted : (((s.completeBefore event.recorded).2.handleRouted setting
        event).2.commands.lookup callId).isSome = true := hcommand
    have hknown := commands_handleRouted hrouted
    rw [commands_completeBefore] at hknown
    exact hknown.imp_left .inl
  · rcases webSearch_handleLive hsearch with hsame | rfl
    · exact .inl (.inr (.inl hsame))
    · exact .inr (brings_of_begins rfl)
  · rcases guardianAssessments_handleRouted hid with hactive | hbegins
    · exact .inl (watches_completeBefore (.inr (.inr ⟨id, hactive, hcallId⟩)))
    · rw [hcallId] at hbegins
      exact .inr (brings_of_begins hbegins)

/-! ## Runs -/

theorem answers_handleLive {s : LiveTools} (h : s.Keyed) (event : LiveEvent) :
    ∃ updates, (handleLive setting event s).1 = (s.completeBefore event.recorded).1 ++ updates ∧
      Answers s event updates := by
  obtain ⟨hintroduced, hupdated, hbrought, hchanged⟩ :=
    @answers_handleRouted setting _ (h.completeBefore event.recorded) event
  exact ⟨_, rfl, hintroduced, fun update hupdate => (hupdated update hupdate).imp_left
    watches_completeBefore, fun callId hbegins => (hbrought callId hbegins).imp_left
    watches_completeBefore, hchanged⟩

/-- Completing the web search introduces nothing. -/
theorem not_introduced_completed (s : LiveTools) (event : EventMsg) (callId : String) :
    ¬ ∃ a ∈ (s.completeBefore event).1.map Mention.ofUpdate, a.introduces = some callId := by
  rintro ⟨_, ha, hintroduces⟩
  obtain ⟨update, hupdate, rfl⟩ := List.mem_map.mp ha
  obtain ⟨call, rfl, -⟩ := Mention.introduces_ofUpdate.mp hintroduces
  exact nomatch (silent_completeBefore s event _ hupdate).1

/-- What an event brings and changes accounts for what the editor is told. -/
theorem accounts_handleLive {s : LiveTools} (h : s.Keyed) (event : LiveEvent) :
    (handleLive setting).Accounts (mentions setting.codex) Mention.introduces Mention.refersTo
      (brings setting.codex) changesCall Watches event s := by
  obtain ⟨updates, hupdates, hintroduced, hupdated, hbrought, hchanged⟩ :=
    @answers_handleLive setting _ h event
  have hmentions : mentions setting.codex event (handleLive setting event s).1 =
      (s.completeBefore event.recorded).1.map Mention.ofUpdate ++ (updates.map Mention.ofUpdate ++
        (askedCall setting.codex event).toList.map Mention.introduced) := by
    rw [mentions, hupdates, List.map_append, List.append_assoc]
  refine ⟨fun known hknown => ⟨fun hgrounded callId hchanges => ?_, fun hchanges => ?_⟩, ?_, ?_,
    fun callId => watches_handleLive⟩
  · obtain ⟨update, rfl, rfl⟩ := hchanged callId hchanges
    rw [hmentions, grounded_append] at hgrounded
    exact (hgrounded.2.1 _ rfl).resolve_right (not_introduced_completed s _ _)
  · refine grounded_of_known fun a ha callId hrefers => ?_
    rw [hmentions, List.mem_append, List.mem_append] at ha
    rcases ha with ha | ha | ha
    · obtain ⟨_, hupdate, rfl⟩ := List.mem_map.mp ha
      obtain ⟨update, rfl, rfl⟩ := Mention.refersTo_ofUpdate.mp hrefers
      exact hknown _ (silent_completeBefore s _ _ hupdate).2
    · obtain ⟨_, hupdate, rfl⟩ := List.mem_map.mp ha
      obtain ⟨update, rfl, rfl⟩ := Mention.refersTo_ofUpdate.mp hrefers
      exact (hupdated update hupdate).elim (hknown _) (hchanges _)
    · obtain ⟨asked, -, rfl⟩ := List.mem_map.mp ha
      cases hrefers
  · rintro callId ⟨a, ha, hintroduces⟩
    rw [hmentions, List.mem_append, List.mem_append] at ha
    rcases ha with ha | ha | ha
    · exact absurd ⟨a, ha, hintroduces⟩ (not_introduced_completed s _ callId)
    · obtain ⟨_, hupdate, rfl⟩ := List.mem_map.mp ha
      obtain ⟨call, rfl, rfl⟩ := Mention.introduces_ofUpdate.mp hintroduces
      exact brings_of_begins (hintroduced call hupdate)
    · obtain ⟨asked, hasked, rfl⟩ := List.mem_map.mp ha
      cases hintroduces
      rw [brings, Option.mem_toList.mp hasked, Option.some_or]
  · intro callId hbrings
    cases hasked : askedCall setting.codex event with
    | some asked =>
      rw [brings, hasked, Option.some_or] at hbrings
      refine .inr ⟨.introduced asked, ?_, hbrings⟩
      rw [hmentions, hasked]
      exact List.mem_append_right _ (List.mem_append_right _ (List.mem_singleton_self _))
    | none =>
      rw [brings, hasked, Option.none_or] at hbrings
      refine (hbrought callId hbrings).imp_right fun ⟨call, hcall, hid⟩ => ?_
      refine ⟨.introduced call.callId, ?_, congrArg some hid⟩
      rw [hmentions]
      exact List.mem_append_right _ (List.mem_append_left _ (List.mem_map_of_mem hcall))

end LiveTools

open LiveTools

/-- **What the editor is told** of a tool call it does not know is a change of one that nothing
brought: in any run, it is sent none of such a call exactly if no event makes one. -/
theorem grounded_iff_changes (setting : Setting) (known : String → Prop) (events : List LiveEvent) :
    Grounded Mention.introduces Mention.refersTo known (told setting events {}) ↔
      ∀ before event, before ++ [event] <+: events → ∀ callId, changesCall event = some callId →
        known callId ∨ ∃ earlier ∈ before, brings setting.codex earlier = some callId := by
  have hknown : ∀ callId, Watches {} callId → known callId :=
    fun callId hwatched => absurd hwatched (not_watches_empty callId)
  have hruns := Transducer.grounded_trace_iff (fun event _ hs => Keyed.handleLive hs event)
    (fun event s hs => @accounts_handleLive setting s hs event) keyed_empty hknown events
  rw [told, hruns, grounded_iff]

end CodexAcp.Thread
