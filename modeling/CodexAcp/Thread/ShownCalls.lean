import CodexAcp.Boundary.ReplayLocations
import CodexAcp.Thread.LiveFrame

/-!
# Live and replayed tool calls

While a turn runs, the call of a subagent and the generation of an image are shown
by the event that begins them and the one that ends them; when the thread is loaded
again, by the second alone. A history also holds response items, and those of a call
under the same id are shown too: the output of a call completes it, however it
ended. The editor keeps what it was told last of each call: does a reload show what
it showed before?

> `replay_shows_iff`: it does, in any run and of any history that introduces the call
> by its end last, but for a wait for named agents of which none has a status at the
> end, which is shown blank, and a call that failed and has its output recorded
> afterwards, which is shown as completed.
-/

namespace CodexAcp.Thread

open CodexAcp.Lib CodexAcp.Protocol CodexAcp.Boundary CodexAcp.Boundary.Shown

/-! ## Calls that begin and end -/

/-- The one event begins the call, and the other one ends it. -/
inductive Brackets (callId : String) : LiveEvent → LiveEvent → Prop
  | image (e : Shown.ImageGenerationEndEvent) (he : e.callId = callId) :
    Brackets callId (.imageGenerationBegin callId) (.imageGenerationEnd e)
  | spawn (b : CollabAgentSpawnBeginEvent) (e : Shown.CollabAgentSpawnEndEvent)
      (hb : b.callId = callId) (he : e.callId = callId) :
    Brackets callId (.collab (.spawnBegin b)) (.collab (.spawnEnd e))
  | interaction (b : CollabAgentInteractionBeginEvent) (e : CollabAgentInteractionEndEvent)
      (hb : b.callId = callId) (he : e.callId = callId) :
    Brackets callId (.collab (.interactionBegin b)) (.collab (.interactionEnd e))
  | waiting (b : CollabWaitingBeginEvent) (e : CollabWaitingEndEvent)
      (hb : b.callId = callId) (he : e.callId = callId) :
    Brackets callId (.collab (.waitingBegin b)) (.collab (.waitingEnd e))
  | close (b : CollabCloseBeginEvent) (e : CollabReceiverEvent)
      (hb : b.callId = callId) (he : e.callId = callId) :
    Brackets callId (.collab (.closeBegin b)) (.collab (.closeEnd e))
  | resume (b : CollabResumeBeginEvent) (e : CollabReceiverEvent)
      (hb : b.callId = callId) (he : e.callId = callId) :
    Brackets callId (.collab (.resumeBegin b)) (.collab (.resumeEnd e))

/-- The call begins and ends in the run, and nothing is about it in between and afterwards. -/
def BeginsAndEnds (callId : String) (begin' end' : LiveEvent) (events : List LiveEvent) : Prop :=
  ∃ before middle after, events = before ++ begin' :: (middle ++ end' :: after) ∧
    .webSearchBegin callId ∉ before ∧ Unmentioned callId middle ∧ Unmentioned callId after

/-- A wait for agents that were named, with no status of any at the end. -/
def EndsBlank (begin' end' : LiveEvent) : Prop :=
  ∃ b e, begin' = .collab (.waitingBegin b) ∧ end' = .collab (.waitingEnd e) ∧
    b.receiverAgents ≠ [] ∧ e.agentStatuses = []

/-- An image that was not made, or a subagent that was not spawned. -/
def EndsFailed : LiveEvent → Prop
  | .imageGenerationEnd event => event.status ≠ "completed"
  | .collab (.spawnEnd event) => event.newThreadId = none
  | _ => False

/-! ## Histories -/

/-- A response item with what it is shown as, whatever id is made up for it. -/
structure ShownItem (parsers : Replayed.Parsers) (cwd : String) where
  item : Replayed.ResponseItem
  plan : Replayed.ReplayResponseItemPlan
  planned : ∃ uuid fuel, Replayed.replayResponseItemPlan parsers uuid fuel cwd
    (Replayed.routeReplayResponseItem item) = some plan

/-- An entry of a history, as a thread that is loaded in `cwd` goes through it. -/
inductive Recorded (parsers : Replayed.Parsers) (cwd : String) where
  | event (event : LiveEvent)
  | item (item : ShownItem parsers cwd)

section History

variable {parsers : Replayed.Parsers} {cwd : String}

def Recorded.update : Recorded parsers cwd → Option Shown.SessionUpdate
  | event live => replayUpdate live
  | item shown =>
    match shown.plan with
    | .effect effect => some effect
    | .ignore _ => none

/-- The tool calls a history is shown as. -/
def replayed (history : List (Recorded parsers cwd)) : List Shown.SessionUpdate :=
  history.filterMap Recorded.update

/-- The call is introduced by none of the entries. -/
def Unintroduced (callId : String) (entries : List (Recorded parsers cwd)) : Prop :=
  ∀ call, .toolCall call ∈ replayed entries → call.callId ≠ callId

/-- The item is the output of the call. -/
def isOutputOf (callId : String) : Replayed.ResponseItem → Bool
  | .functionCallOutput callId' _ | .customToolCallOutput callId' _ => callId' = callId
  | _ => false

/-- The output of the call is among the entries. -/
def HasOutput (callId : String) (entries : List (Recorded parsers cwd)) : Prop :=
  ∃ item, .item item ∈ entries ∧ isOutputOf callId item.item = true

/-- What is updated of a call is its output. -/
theorem update_eq_toolCallUpdate {entry : Recorded parsers cwd} {update : Shown.ToolCallUpdate}
    (h : entry.update = some (.toolCallUpdate update)) :
    (∃ item, entry = .item item ∧ isOutputOf update.callId item.item = true) ∧
      ∃ output, update = Replayed.completedToolCallUpdate update.callId output := by
  cases entry with
  | event event =>
    cases event
    case collab event => cases event <;> cases h
    all_goals cases h
  | item item =>
    obtain ⟨item, plan, uuid, fuel, hplan⟩ := item
    cases plan with
    | ignore reason => cases h
    | effect effect =>
      cases h
      cases item with
      | functionCallOutput callId output =>
        cases hplan
        exact ⟨⟨_, rfl, decide_eq_true rfl⟩, _, rfl⟩
      | customToolCallOutput callId output =>
        cases hplan
        exact ⟨⟨_, rfl, decide_eq_true rfl⟩, _, rfl⟩
      | functionCall name arguments callId =>
        rw [Replayed.routeReplayResponseItem_functionCall] at hplan
        split at hplan
        · obtain ⟨_, -, hcall⟩ := Option.map_eq_some_iff.mp hplan
          cases hcall
        · cases hplan
      | customToolCall name input callId =>
        rw [Replayed.routeReplayResponseItem_customToolCall] at hplan
        split at hplan <;> cases hplan
      | localShellCall callId exec status =>
        cases callId with
        | none => cases hplan
        | some callId =>
          obtain ⟨_, -, hcall⟩ := Option.map_eq_some_iff.mp hplan
          cases hcall
      | _ => cases hplan

/-- And its output updates a call. -/
theorem update_of_isOutputOf {callId : String} {item : ShownItem parsers cwd}
    (h : isOutputOf callId item.item = true) :
    ∃ output, (Recorded.item item).update =
      some (.toolCallUpdate (Replayed.completedToolCallUpdate callId output)) := by
  obtain ⟨item, plan, uuid, fuel, hplan⟩ := item
  cases item with
  | functionCallOutput callId' output =>
    cases of_decide_eq_true h
    cases hplan
    exact ⟨_, rfl⟩
  | customToolCallOutput callId' output =>
    cases of_decide_eq_true h
    cases hplan
    exact ⟨_, rfl⟩
  | _ => cases h

end History

/-! ## One call -/

/-- What a call's two events show, live and replayed. -/
structure Shows (display : Display) (callId : String) (begin' end' : LiveEvent)
    (call call' : Shown.ToolCall) (update : Shown.ToolCallUpdate) : Prop where
  begun : statelessUpdates display begin' = [.toolCall call]
  ended : statelessUpdates display end' = [.toolCallUpdate update]
  unreplayed : replayUpdate begin' = none
  replays : replayUpdate end' = some (.toolCall call')
  callId_call : call.callId = callId
  callId_call' : call'.callId = callId
  callId_update : update.callId = callId
  /-- Both are calls that show the same whenever they come. -/
  stateless : begin'.isStateless = true ∧ end'.isStateless = true

theorem not_endsBlank {begin' end' : LiveEvent}
    (h : ∀ e, end' ≠ .collab (.waitingEnd e)) : ¬ EndsBlank begin' end' :=
  fun ⟨_, e, _, hend, _⟩ => h e hend

/-- A wait is shown with contents exactly if agents were named. -/
theorem content_collabWaitingBegin_eq_nil_iff (event : CollabWaitingBeginEvent) :
    (collabWaitingBeginToolCall event).content = [] ↔ event.receiverAgents = [] := by
  show (if !event.receiverAgents.isEmpty then _ else []) = [] ↔ _
  cases event.receiverAgents with
  | nil => exact iff_of_true rfl rfl
  | cons receiver receivers => exact iff_of_false (List.cons_ne_nil _ _) (List.cons_ne_nil _ _)

theorem status_imageGenerationReplay (event : Shown.ImageGenerationEndEvent) :
    (imageGenerationReplayToolCall event).status = .completed ↔
      ¬ EndsFailed (.imageGenerationEnd event) := by
  show imageGenerationStatus event = .completed ↔ ¬ event.status ≠ "completed"
  unfold imageGenerationStatus
  split
  next hcompleted => exact iff_of_true rfl (not_not.mpr hcompleted)
  next hfailed => exact iff_of_false nofun (not_not.mpr hfailed)

theorem status_collabSpawnReplay (event : Shown.CollabAgentSpawnEndEvent) :
    (collabSpawnReplayToolCall event).status = .completed ↔
      ¬ EndsFailed (.collab (.spawnEnd event)) := by
  show Shown.collabSpawnEndStatus event = .completed ↔ ¬ event.newThreadId = none
  unfold Shown.collabSpawnEndStatus
  cases event.newThreadId with
  | none => exact iff_of_false nofun (not_not.mpr rfl)
  | some threadId => exact iff_of_true rfl nofun

/-- **The two rows** of a call are the same, unless it is a wait that ends blank; and it is shown
as completed, unless it failed. -/
theorem Brackets.shows (display : Display) {callId : String} {begin' end' : LiveEvent}
    (h : Brackets callId begin' end') :
    ∃ call call' update, Shows display callId begin' end' call call' update ∧
      (update.act call.row = call'.row ↔ ¬ EndsBlank begin' end') ∧
      (call'.status = .completed ↔ ¬ EndsFailed end') ∧
      (EndsBlank begin' end' → ¬ EndsFailed end') := by
  cases h with
  | image e he =>
    have hblank : ¬ EndsBlank (.imageGenerationBegin callId) (.imageGenerationEnd e) :=
      not_endsBlank nofun
    exact ⟨_, _, _, ⟨rfl, rfl, rfl, rfl, rfl, he, he, rfl, rfl⟩,
      iff_of_true (act_imageGenerationEnd ⟨rfl, rfl⟩ rfl e) hblank,
      status_imageGenerationReplay e, fun hends => absurd hends hblank⟩
  | spawn b e hb he =>
    have hblank : ¬ EndsBlank (.collab (.spawnBegin b)) (.collab (.spawnEnd e)) :=
      not_endsBlank nofun
    exact ⟨_, _, _, ⟨rfl, rfl, rfl, rfl, hb, he, he, rfl, rfl⟩,
      iff_of_true (act_collabEnd ⟨rfl, rfl⟩ _ _ _ _ _) hblank,
      status_collabSpawnReplay e, fun hends => absurd hends hblank⟩
  | waiting b e hb he =>
    refine ⟨_, _, _, ⟨rfl, rfl, rfl, rfl, hb, he, he, rfl, rfl⟩, ?_, iff_of_true rfl not_false,
      fun _ => not_false⟩
    rw [act_collabWaitingEnd_iff ⟨rfl, rfl⟩, content_collabWaitingBegin_eq_nil_iff]
    constructor
    · rintro hshown ⟨b', e', hb', he', hnamed, hblank⟩
      cases hb'
      cases he'
      exact hshown.elim (· hblank) hnamed
    · intro hblank
      by_contra hshown
      rw [not_or, not_not] at hshown
      exact hblank ⟨b, e, rfl, rfl, hshown.2, hshown.1⟩
  | interaction b e hb he | close b e hb he | resume b e hb he =>
    exact ⟨_, _, _, ⟨rfl, rfl, rfl, rfl, hb, he, he, rfl, rfl⟩,
      iff_of_true (act_collabEnd ⟨rfl, rfl⟩ _ _ _ _ _) (not_endsBlank nofun),
      iff_of_true rfl not_false, fun _ => not_false⟩

/-! ## A call in a run -/

namespace LiveTools

variable {setting : Setting}

theorem handleRouted_of_isStateless {event : LiveEvent} (h : event.isStateless = true)
    (s : LiveTools) :
    s.handleRouted setting event = (statelessUpdates setting.display event, s) := by
  cases event <;> first | rfl | cases h

theorem updatesOf_handleLive_of_isStateless {callId : String} {s : LiveTools}
    (h : Apart callId s) {event : LiveEvent} (hevent : event.isStateless = true) :
    updatesOf callId (handleLive setting event s).1 =
      updatesOf callId (statelessUpdates setting.display event) := by
  rw [updatesOf_handleLive h, handleRouted_of_isStateless hevent]

end LiveTools

open LiveTools

section Run

variable {setting : Setting} {callId : String} {parsers : Replayed.Parsers} {cwd : String}

theorem updatesOf_toolCall {call : Shown.ToolCall} (h : call.callId = callId) :
    updatesOf callId [.toolCall call] = [.toolCall call] :=
  List.filter_cons_of_pos (decide_eq_true h)

theorem updatesOf_toolCallUpdate {update : Shown.ToolCallUpdate} (h : update.callId = callId) :
    updatesOf callId [.toolCallUpdate update] = [.toolCallUpdate update] :=
  List.filter_cons_of_pos (decide_eq_true h)

theorem updatesOf_append (updates updates' : List Shown.SessionUpdate) :
    updatesOf callId (updates ++ updates') =
      updatesOf callId updates ++ updatesOf callId updates' :=
  List.filter_append ..

/-- What the editor is sent of the call, live: in the end, its beginning and its end. -/
theorem updatesOf_sent_of_brackets {begin' end' : LiveEvent} {call call' : Shown.ToolCall}
    {update : Shown.ToolCallUpdate} (hshows : Shows setting.display callId begin' end' call call'
      update) {s : LiveTools} (hs : Apart callId s) {events : List LiveEvent}
    (h : BeginsAndEnds callId begin' end' events) :
    ∃ earlier, updatesOf callId (sent setting events s) =
      earlier ++ [.toolCall call, .toolCallUpdate update] := by
  obtain ⟨before, middle, after, rfl, hsearch, hmiddle, hafter⟩ := h
  obtain ⟨hstateless, hstateless'⟩ := hshows.stateless
  have hne : ∀ {event : LiveEvent}, event.isStateless = true →
      event ≠ .webSearchBegin callId := by
    rintro event hevent rfl
    cases hevent
  have hbefore := @Apart.final setting _ _ hs _ hsearch
  have hbegun := @Apart.handleLive setting _ _ hbefore _ (hne hstateless)
  have hmid := @Apart.final setting _ _ hbegun _ hmiddle.noSearch
  have hended := @Apart.handleLive setting _ _ hmid _ (hne hstateless')
  refine ⟨updatesOf callId (sent setting before s), ?_⟩
  rw [sent_append, sent_cons, sent_append, sent_cons]
  simp only [updatesOf_append]
  rw [updatesOf_handleLive_of_isStateless hbefore hstateless, updatesOf_sent hbegun hmiddle,
    updatesOf_handleLive_of_isStateless hmid hstateless', updatesOf_sent hended hafter,
    hshows.begun, hshows.ended, updatesOf_toolCall hshows.callId_call,
    updatesOf_toolCallUpdate hshows.callId_update]
  rfl

/-- What is shown of a call that is introduced no more is its output. -/
theorem updatesOf_replayed {entries : List (Recorded parsers cwd)}
    (h : Unintroduced callId entries) :
    ∃ parts : List Shown.ToolCallUpdate,
      updatesOf callId (replayed entries) = parts.map .toolCallUpdate ∧
        (∀ part ∈ parts, ∃ output, part = Replayed.completedToolCallUpdate callId output) ∧
        (parts = [] ↔ ¬ HasOutput callId entries) := by
  induction entries with
  | nil => exact ⟨[], rfl, List.forall_mem_nil _, iff_of_true rfl fun ⟨_, hmem, _⟩ => nomatch hmem⟩
  | cons entry entries ih =>
    have hentries : Unintroduced callId entries := fun call hcall => h call (by
      obtain ⟨entry', hentry', hupdate⟩ := List.mem_filterMap.mp hcall
      exact List.mem_filterMap.mpr ⟨entry', List.mem_cons_of_mem _ hentry', hupdate⟩)
    obtain ⟨parts, hparts, houtputs, hnil⟩ := ih hentries
    by_cases hmine : ∃ update, entry.update = some update ∧ update.callId = callId
    · obtain ⟨update, hupdate, hid⟩ := hmine
      cases update with
      | toolCall call =>
        exact absurd hid (h call (List.mem_filterMap.mpr ⟨entry, List.mem_cons_self, hupdate⟩))
      | toolCallUpdate update =>
        change update.callId = callId at hid
        subst hid
        obtain ⟨⟨item, rfl, houtput⟩, hcompleted⟩ := update_eq_toolCallUpdate hupdate
        refine ⟨update :: parts, ?_, List.forall_mem_cons.mpr ⟨hcompleted, houtputs⟩,
          iff_of_false (List.cons_ne_nil _ _) (not_not.mpr ⟨item, List.mem_cons_self, houtput⟩)⟩
        rw [replayed, List.filterMap_cons_some hupdate, ← List.singleton_append, updatesOf_append,
          updatesOf_toolCallUpdate rfl]
        exact congrArg _ hparts
    · refine ⟨parts, ?_, houtputs, hnil.trans (not_congr ⟨?_, ?_⟩)⟩
      · cases hupdate : entry.update with
        | none => rwa [replayed, List.filterMap_cons_none hupdate]
        | some update =>
          rw [replayed, List.filterMap_cons_some hupdate]
          refine Eq.trans (List.filter_cons_of_neg fun hid => ?_) hparts
          exact hmine ⟨update, hupdate, of_decide_eq_true hid⟩
      · exact fun ⟨item, hitem, houtput⟩ => ⟨item, List.mem_cons_of_mem _ hitem, houtput⟩
      · rintro ⟨item, hitem, houtput⟩
        rcases List.mem_cons.mp hitem with rfl | hitem
        · obtain ⟨output, hupdate⟩ := update_of_isOutputOf houtput
          exact absurd ⟨_, hupdate, rfl⟩ hmine
        · exact ⟨item, hitem, houtput⟩

/-- The output of a call says no more than that it is completed. -/
theorem foldl_outputs {parts : List Shown.ToolCallUpdate}
    (h : ∀ part ∈ parts, ∃ output, part = Replayed.completedToolCallUpdate callId output)
    (row : Row) :
    parts.foldl (fun row part => part.act row) row =
      if parts = [] then row else { row with status := .completed } := by
  induction parts generalizing row with
  | nil => rfl
  | cons part parts ih =>
    obtain ⟨⟨output, rfl⟩, hparts⟩ := List.forall_mem_cons.mp h
    rw [List.foldl_cons, ih hparts, if_neg (List.cons_ne_nil _ _)]
    split <;> rfl

/-- A history that introduces the call by its end shows that, with the output that follows. -/
theorem lookup_replayed_of_end {display : Display} {begin' end' : LiveEvent}
    {call call' : Shown.ToolCall} {update : Shown.ToolCallUpdate}
    (hshows : Shows display callId begin' end' call call' update)
    (before : List (Recorded parsers cwd)) {after : List (Recorded parsers cwd)}
    (h : Unintroduced callId after) [Decidable (HasOutput callId after)] :
    (shown (replayed (before ++ .event end' :: after))).lookup callId =
      some (if HasOutput callId after then { call'.row with status := .completed }
        else call'.row) := by
  obtain ⟨parts, hparts, houtputs, hnil⟩ := updatesOf_replayed h
  have hupdates : updatesOf callId (replayed (before ++ .event end' :: after)) =
      updatesOf callId (replayed before) ++
        .toolCall call' :: parts.map Shown.SessionUpdate.toolCallUpdate := by
    have hend : (Recorded.event end' : Recorded parsers cwd).update = some (.toolCall call') :=
      hshows.replays
    unfold replayed at hparts ⊢
    rw [List.filterMap_append, List.filterMap_cons_some hend, updatesOf_append,
      ← List.singleton_append, updatesOf_append, updatesOf_toolCall hshows.callId_call', hparts]
    rfl
  rw [shown_of_updates hupdates, foldl_outputs houtputs]
  by_cases houtput : HasOutput callId after
  · rw [if_pos houtput, if_neg fun hempty => hnil.mp hempty houtput]
  · rw [if_neg houtput, if_pos (hnil.mpr houtput)]

/-- **A reload** shows a call of a subagent or an image as it was shown live, in any run in which
it begins and ends and of any history that introduces it by its end last, exactly if it is no wait
that ends blank, and did not fail if its output follows. -/
theorem replay_shows_iff (setting : Setting) {callId : String} {begin' end' : LiveEvent}
    (hbrackets : Brackets callId begin' end') {events : List LiveEvent}
    (h : BeginsAndEnds callId begin' end' events) (before : List (Recorded parsers cwd))
    {after : List (Recorded parsers cwd)} (hafter : Unintroduced callId after) :
    (shown (sent setting events {})).lookup callId =
        (shown (replayed (before ++ .event end' :: after))).lookup callId ↔
      ¬ EndsBlank begin' end' ∧ (HasOutput callId after → ¬ EndsFailed end') := by
  classical
  obtain ⟨call, call', update, hshows, hrow, hstatus, hblank⟩ := hbrackets.shows setting.display
  obtain ⟨earlier, hlive⟩ := updatesOf_sent_of_brackets hshows (apart_empty callId) h
  rw [@shown_of_updates _ _ _ _ [update] hlive, lookup_replayed_of_end hshows before hafter,
    Option.some.injEq]
  by_cases houtput : HasOutput callId after
  · rw [if_pos houtput]
    by_cases hfailed : EndsFailed end'
    · -- the output shows as completed what has failed
      refine iff_of_false (fun hsame => ?_) fun hboth => hboth.2 houtput hfailed
      have hrow' := hrow.mpr fun hends => hblank hends hfailed
      rw [List.foldl_cons, List.foldl_nil, hrow'] at hsame
      exact hstatus.mp (congrArg Row.status hsame) hfailed
    · have hcompleted : { call'.row with status := .completed } = call'.row := by
        rw [← hstatus.mpr hfailed]
        rfl
      rw [hcompleted]
      exact hrow.trans (and_iff_left fun _ => hfailed).symm
  · rw [if_neg houtput]
    exact hrow.trans (and_iff_left fun hhas => absurd hhas houtput).symm

/-- For concrete runs: a wait for one named agent, which has no status at its end. -/
def sampleWaitBegin : CollabWaitingBeginEvent :=
  { callId := "call", receiverThreadIds := ["thread"]
    receiverAgents := [{ threadId := "thread", agentNickname := some "Ada", agentRole := none }] }

def sampleWaitEnd : CollabWaitingEndEvent :=
  { callId := "call", agentStatuses := [], statuses := [] }

/-- The output of the call, as it is recorded after its end. -/
def sampleWaitOutput : ShownItem Replayed.catParsers "/work" where
  item := .functionCallOutput "call" (.string "done")
  plan := .sendToolCallUpdate (Replayed.completedToolCallUpdate "call" (some (.string "done")))
  planned := ⟨"", 0, rfl⟩

/-- The reload loses the name of the agent. -/
theorem wait_shown_blank :
    (shown (sent Setting.sample
        [.collab (.waitingBegin sampleWaitBegin), .collab (.waitingEnd sampleWaitEnd)] {})).lookup
        "call" ≠
      (shown (replayed
        [.event (.collab (.waitingEnd sampleWaitEnd)), .item sampleWaitOutput])).lookup "call" := by
  have hafter : Unintroduced "call" [Recorded.item sampleWaitOutput] :=
    fun _ hcall => nomatch List.mem_singleton.mp hcall
  intro hsame
  obtain ⟨hnotBlank, -⟩ :=
    (replay_shows_iff Setting.sample (.waiting sampleWaitBegin sampleWaitEnd rfl rfl)
      ⟨[], [], [], rfl, List.not_mem_nil, List.forall_mem_nil _, List.forall_mem_nil _⟩ []
      hafter).mp hsame
  exact hnotBlank ⟨sampleWaitBegin, sampleWaitEnd, rfl, rfl, List.cons_ne_nil _ _, rfl⟩

end Run

end CodexAcp.Thread
