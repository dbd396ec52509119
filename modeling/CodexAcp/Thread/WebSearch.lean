import CodexAcp.Thread.ActiveTools

/-!
# How a web search ends

Codex tells when a web search begins, and when its query is known, but not when it
is over. A submission remembers one search, completes it before the next event
that comes only after a search, and forgets it. An event that tells the query
sets the search to be in progress, whether it is remembered or not.

> `webSearch_handleEvent`, `searchStatuses_handleEvent`: what an event does to the
> search that is remembered, and to the status that is shown of one.
> `completed_iff_of_begun`: a search is shown as completed at the end of the turn
> exactly when its query was not told after it was completed.
> `webSearches_completed_iff`: every search is exactly when no other event that
> completes a search comes between the begin and the end of one.
-/

namespace CodexAcp.Thread

open CodexAcp.Lib CodexAcp.Protocol CodexAcp.Boundary

/-! ## What is shown of a search -/

/-- The status an effect shows of a tool call, if it shows one. -/
def shownStatus (callId : String) : BridgeEffect → Option ToolCallStatus
  | .forward (.toolCall toolCall) =>
    if toolCall.toolCallId = callId then some toolCall.status else none
  | .forward (.toolCallUpdate update) => if update.toolCallId = callId then update.status else none
  | _ => none

def isWebSearchEvent : EventMsg → Bool
  | .webSearchBegin _ | .webSearchEnd _ => true
  | _ => false

/-- The statuses an answer shows of a web search: that of the search it completes, and those
of the event's own search. -/
def searchStatuses (callId : String) (event : EventMsg) (answer : ToolAnswer) :
    List ToolCallStatus :=
  (answer.completed.toList ++ if isWebSearchEvent event then answer.effects else []).filterMap
    (shownStatus callId)

/-- The statuses that are shown of a web search during a run, in order. -/
def shownStatuses (codex : Codex) (client : SessionClient) (s : ActiveToolState) (callId : String)
    (events : List EventMsg) : List ToolCallStatus :=
  (ActiveToolState.handleEvent codex client).trace (searchStatuses callId) s events

/-- The status an event about a search shows of it. -/
def ownStatus (callId : String) : EventMsg → Option ToolCallStatus
  | .webSearchBegin begun => if begun.callId = callId then some .pending else none
  | .webSearchEnd ended => if ended.callId = callId then some .inProgress else none
  | _ => none

/-- The searches that some events begin. -/
def begunSearches (events : List EventMsg) : List String :=
  events.filterMap fun
    | .webSearchBegin begun => some begun.callId
    | _ => none

/-- The events that end a turn. -/
def endsTurn : EventMsg → Bool
  | .turnComplete _ | .error _ | .turnAborted _ | .shutdownComplete => true
  | _ => false

/-- Whatever ends the turn completes a search first, and tells nothing of one. -/
theorem completes_of_endsTurn {event : EventMsg} (h : endsTurn event = true) (callId : String) :
    completesActiveWebSearchBefore event = true ∧ ownStatus callId event = none ∧
      begunSearches [event] = [] := by
  cases event
  case error | turnComplete | turnAborted | shutdownComplete => exact ⟨rfl, rfl, rfl⟩
  all_goals cases h

theorem filterMap_cons {α β : Type} (f : α → Option β) (a : α) (as : List α) :
    (a :: as).filterMap f = (f a).toList ++ as.filterMap f := by
  cases h : f a with
  | none => exact List.filterMap_cons_none h
  | some b => exact List.filterMap_cons_some h

/-! ## What an event does -/

namespace ActiveToolState

variable (codex : Codex) (client : SessionClient)

theorem streamActiveCommandOutput_webSearch (callId data : String) (s : ActiveToolState) :
    (s.streamActiveCommandOutput client callId data).2.webSearch = s.webSearch := by
  unfold streamActiveCommandOutput
  split <;> rfl

theorem handleRoute_webSearch (event : EventMsg) (s : ActiveToolState) :
    (s.handleRoute codex client (routeLiveEvent event)).2.webSearch =
      match event with
      | .webSearchBegin begun => some begun.callId
      | _ => s.webSearch := by
  cases htool : isToolEvent event with
  | false =>
    rw [(routeLiveEvent_passesBy htool codex client s).1]
    cases event
    case webSearchBegin => cases htool
    all_goals rfl
  | true =>
    cases event
    case execApprovalRequest approval =>
      show (s.execApproval codex approval).webSearch = s.webSearch
      unfold execApproval
      split <;> rfl
    case execCommandBegin begun => rfl
    case execCommandOutputDelta delta => exact streamActiveCommandOutput_webSearch client _ _ s
    case terminalInteraction typed => exact streamActiveCommandOutput_webSearch client _ _ s
    case execCommandEnd ended =>
      show (s.execCommandEnd client ended).2.webSearch = s.webSearch
      unfold execCommandEnd removeActiveCommand
      cases s.commands.lookup ended.callId <;> rfl
    case webSearchBegin begun => rfl
    case webSearchEnd ended => rfl
    all_goals cases htool

/-- The search that is remembered after an event. -/
theorem webSearch_handleEvent (event : EventMsg) (s : ActiveToolState) :
    (handleEvent codex client event s).2.webSearch =
      match event with
      | .webSearchBegin begun => some begun.callId
      | event => if completesActiveWebSearchBefore event then none else s.webSearch := by
  show ((s.completeBefore event).2.handleRoute codex client (routeLiveEvent event)).2.webSearch = _
  rw [handleRoute_webSearch]
  have hbefore : (s.completeBefore event).2.webSearch =
      if completesActiveWebSearchBefore event then none else s.webSearch := by
    unfold completeBefore
    split <;> rfl
  cases event
  case webSearchBegin => rfl
  all_goals exact hbefore

/-- The statuses an event shows of a search: that it is completed, if it is the one that is
remembered, and what the event tells of it. -/
theorem searchStatuses_handleEvent (callId : String) (event : EventMsg) (s : ActiveToolState) :
    searchStatuses callId event (handleEvent codex client event s).1 =
      (if completesActiveWebSearchBefore event = true ∧ s.webSearch = some callId then [.completed]
        else []) ++ (ownStatus callId event).toList := by
  unfold searchStatuses
  rw [List.filterMap_append]
  congr 1
  · show (s.completeBefore event).1.toList.filterMap (shownStatus callId) = _
    unfold completeBefore
    by_cases hcompletes : completesActiveWebSearchBefore event = true
    · rw [if_pos hcompletes]
      show (s.webSearch.map fun id => BridgeEffect.toolCallUpdate
        (webSearchCompleteToolCallUpdate id)).toList.filterMap (shownStatus callId) = _
      cases hsearch : s.webSearch with
      | none => rw [if_neg fun h => nomatch h.2]; rfl
      | some id =>
        show [BridgeEffect.toolCallUpdate _].filterMap (shownStatus callId) = _
        rw [filterMap_cons, List.filterMap_nil, List.append_nil]
        show (if id = callId then some ToolCallStatus.completed else none).toList = _
        by_cases hid : id = callId
        · rw [if_pos hid, if_pos ⟨hcompletes, by rw [hid]⟩]
          rfl
        · rw [if_neg hid, if_neg fun h => hid (Option.some.inj h.2)]
          rfl
    · rw [if_neg hcompletes, if_neg fun h => hcompletes h.1]
      rfl
  · cases event
    case webSearchBegin begun =>
      exact (filterMap_cons _ _ []).trans (List.append_nil _)
    case webSearchEnd ended =>
      exact (filterMap_cons _ _ []).trans (List.append_nil _)
    all_goals rfl

end ActiveToolState

/-! ## One search -/

theorem begunSearches_append (events events' : List EventMsg) :
    begunSearches (events ++ events') = begunSearches events ++ begunSearches events' :=
  List.filterMap_append

theorem not_mem_begunSearches_append {callId : String} {events events' : List EventMsg} :
    callId ∉ begunSearches (events ++ events') ↔
      callId ∉ begunSearches events ∧ callId ∉ begunSearches events' := by
  rw [begunSearches_append, List.mem_append, not_or]

theorem not_mem_begunSearches_cons {callId : String} {event : EventMsg} {events : List EventMsg} :
    callId ∉ begunSearches (event :: events) ↔
      callId ∉ begunSearches [event] ∧ callId ∉ begunSearches events :=
  @not_mem_begunSearches_append callId [event] events

/-- The last of some statuses is the one that no other one follows. -/
theorem getLast?_append_cons_iff {α : Type} {a : α} {before after : List α}
    (hafter : ∀ b ∈ after, b ≠ a) :
    (before ++ a :: after).getLast? = some a ↔ after = [] := by
  constructor
  · intro h
    by_contra hne
    have hlast : after.getLast? = some a := by
      rw [List.getLast?_append_of_ne_nil _ (List.cons_ne_nil a after)] at h
      obtain ⟨b, after, rfl⟩ := List.exists_cons_of_ne_nil hne
      exact List.getLast?_cons_cons.symm.trans h
    exact hafter a (List.mem_of_getLast? hlast) rfl
  · rintro rfl
    exact List.getLast?_concat

/-- An event that completes a search tells nothing of another one, unless it begins it. -/
theorem ownStatus_closing {callId : String} {closing : EventMsg}
    (hcloses : completesActiveWebSearchBefore closing = true)
    (hbegun : callId ∉ begunSearches [closing]) : ownStatus callId closing = none := by
  cases closing
  case webSearchBegin begun =>
    exact if_neg fun h => hbegun (List.mem_singleton.mpr h.symm)
  case webSearchEnd => cases hcloses
  all_goals rfl

section Runs

variable {codex : Codex} {client : SessionClient} {callId : String}

theorem shownStatuses_cons (s : ActiveToolState) (event : EventMsg) (events : List EventMsg) :
    shownStatuses codex client s callId (event :: events) =
      (if completesActiveWebSearchBefore event = true ∧ s.webSearch = some callId then [.completed]
        else []) ++ (ownStatus callId event).toList ++
        shownStatuses codex client (ActiveToolState.handleEvent codex client event s).2 callId
          events := by
  rw [← ActiveToolState.searchStatuses_handleEvent codex client]
  rfl

theorem shownStatuses_append (s : ActiveToolState) (events events' : List EventMsg) :
    shownStatuses codex client s callId (events ++ events') =
      shownStatuses codex client s callId events ++
        shownStatuses codex client ((ActiveToolState.handleEvent codex client).final s events)
          callId events' :=
  Transducer.trace_append s events events'

/-- Without a completing event, the search that is remembered stays. -/
theorem final_webSearch_open {events : List EventMsg}
    (hopen : ∀ e ∈ events, completesActiveWebSearchBefore e = false) (s : ActiveToolState) :
    ((ActiveToolState.handleEvent codex client).final s events).webSearch = s.webSearch := by
  induction events generalizing s with
  | nil => rfl
  | cons event events ih =>
    obtain ⟨hfirst, hrest⟩ := List.forall_mem_cons.mp hopen
    rw [Transducer.final_cons, ih hrest, ActiveToolState.webSearch_handleEvent]
    cases event
    case webSearchBegin => cases hfirst
    all_goals exact if_neg (Bool.eq_false_iff.mp hfirst)

/-- Without a completing event, only what is told of a search is shown of it. -/
theorem shownStatuses_open {events : List EventMsg}
    (hopen : ∀ e ∈ events, completesActiveWebSearchBefore e = false) (s : ActiveToolState) :
    shownStatuses codex client s callId events = events.filterMap (ownStatus callId) := by
  induction events generalizing s with
  | nil => rfl
  | cons event events ih =>
    obtain ⟨hfirst, hrest⟩ := List.forall_mem_cons.mp hopen
    have hkept : ¬ (completesActiveWebSearchBefore event = true ∧ s.webSearch = some callId) :=
      fun h => Bool.eq_false_iff.mp hfirst h.1
    rw [shownStatuses_cons, ih hrest, if_neg hkept, List.nil_append, filterMap_cons]

/-- A search is not remembered after an event that does not begin it, if it was not before or
the event completes it. -/
theorem webSearch_forgotten {event : EventMsg} (hbegun : callId ∉ begunSearches [event])
    {s : ActiveToolState}
    (hs : s.webSearch ≠ some callId ∨ completesActiveWebSearchBefore event = true) :
    (ActiveToolState.handleEvent codex client event s).2.webSearch ≠ some callId := by
  rw [ActiveToolState.webSearch_handleEvent]
  cases event
  case webSearchBegin begun =>
    intro h
    exact hbegun (List.mem_singleton.mpr (Option.some.inj h).symm)
  all_goals
    show (if _ then none else s.webSearch) ≠ some callId
    split
    · exact fun h => nomatch h
    · exact hs.resolve_right (by assumption)

/-- A search that is not remembered is shown with the statuses its own events tell, as long as
it does not begin. -/
theorem shownStatuses_forgotten {events : List EventMsg} (hbegun : callId ∉ begunSearches events)
    {s : ActiveToolState} (hs : s.webSearch ≠ some callId) :
    shownStatuses codex client s callId events = events.filterMap (ownStatus callId) := by
  induction events generalizing s with
  | nil => rfl
  | cons event events ih =>
    obtain ⟨hfirst, hrest⟩ := not_mem_begunSearches_cons.mp hbegun
    have hforgotten := @webSearch_forgotten codex client callId event hfirst s (.inl hs)
    rw [shownStatuses_cons, ih hrest hforgotten, if_neg fun h => hs h.2, List.nil_append,
      filterMap_cons]

/-- Once a search has been completed, its statuses are what its own events tell after that. -/
theorem shownStatuses_closed {mid after : List EventMsg} {closing : EventMsg}
    (hopen : ∀ e ∈ mid, completesActiveWebSearchBefore e = false)
    (hcloses : completesActiveWebSearchBefore closing = true)
    (hbegun : callId ∉ begunSearches (closing :: after)) {s : ActiveToolState}
    (hs : s.webSearch = some callId) :
    shownStatuses codex client s callId (mid ++ closing :: after) =
      mid.filterMap (ownStatus callId) ++ .completed :: after.filterMap (ownStatus callId) := by
  obtain ⟨hfirst, hrest⟩ := not_mem_begunSearches_cons.mp hbegun
  have hslot : ((ActiveToolState.handleEvent codex client).final s mid).webSearch = some callId :=
    (final_webSearch_open hopen s).trans hs
  have hforgotten := @webSearch_forgotten codex client callId closing hfirst
    ((ActiveToolState.handleEvent codex client).final s mid) (.inr hcloses)
  rw [shownStatuses_append, shownStatuses_open hopen, shownStatuses_cons, if_pos ⟨hcloses, hslot⟩,
    ownStatus_closing hcloses hfirst, shownStatuses_forgotten hrest hforgotten]
  rfl

/-- What is told of a search that does not begin is told of one in progress. -/
theorem ownStatus_inProgress {events : List EventMsg} (hbegun : callId ∉ begunSearches events)
    {status : ToolCallStatus} (h : status ∈ events.filterMap (ownStatus callId)) :
    status = .inProgress := by
  obtain ⟨event, hevent, hown⟩ := List.mem_filterMap.mp h
  cases event
  case webSearchBegin begun =>
    have hid : ¬ begun.callId = callId := fun hid =>
      hbegun (List.mem_filterMap.mpr ⟨_, hevent, congrArg some hid⟩)
    exact nomatch (if_neg hid).symm.trans hown
  case webSearchEnd ended =>
    by_cases hid : ended.callId = callId
    · exact (Option.some.inj ((if_pos hid).symm.trans hown)).symm
    · exact nomatch (if_neg hid).symm.trans hown
  all_goals exact nomatch hown

/-- No event tells of a search that does not begin, unless one tells its query. -/
theorem filterMap_ownStatus_eq_nil_iff {events : List EventMsg}
    (hbegun : callId ∉ begunSearches events) :
    events.filterMap (ownStatus callId) = [] ↔
      ∀ ended, .webSearchEnd ended ∈ events → ended.callId ≠ callId := by
  rw [List.filterMap_eq_nil_iff]
  constructor
  · intro h ended hended hid
    exact nomatch (if_pos hid).symm.trans (h _ hended)
  · intro h event hevent
    cases event
    case webSearchBegin begun =>
      exact if_neg fun hid => hbegun (List.mem_filterMap.mpr ⟨_, hevent, congrArg some hid⟩)
    case webSearchEnd ended => exact if_neg (h ended hevent)
    all_goals rfl

/-- Where `closing` is the first event that completes a search: the query is told before any
such event exactly when it is not told after this one. -/
theorem toldInTime_iff {mid after : List EventMsg} {closing : EventMsg}
    (hopen : ∀ e ∈ mid, completesActiveWebSearchBefore e = false)
    (hcloses : completesActiveWebSearchBefore closing = true) :
    (∀ ended, .webSearchEnd ended ∈ after → ended.callId ≠ callId) ↔
      ∀ before ended rest, mid ++ closing :: after = before ++ .webSearchEnd ended :: rest →
        ended.callId = callId → ∀ e ∈ before, completesActiveWebSearchBefore e = false := by
  constructor
  · intro hnone before ended rest hsplit hid
    rcases List.append_eq_append_iff.mp hsplit with ⟨late, _, hlate⟩ | ⟨_, hbefore, _⟩
    · cases late with
      | nil =>
        -- The query does not complete a search.
        cases hlate
        cases hcloses
      | cons _ late =>
        cases hlate
        exact absurd hid (hnone ended (List.mem_append_right _ List.mem_cons_self))
    · exact fun e he => hopen e (hbefore ▸ List.mem_append_left _ he)
  · intro hintime ended hended hid
    obtain ⟨early, late, rfl⟩ := List.append_of_mem hended
    have hsplit : mid ++ closing :: (early ++ .webSearchEnd ended :: late) =
        (mid ++ closing :: early) ++ .webSearchEnd ended :: late := by
      rw [List.append_assoc, List.cons_append]
    have hclosing := hintime _ ended late hsplit hid closing
      (List.mem_append_right _ List.mem_cons_self)
    exact Bool.eq_false_iff.mp hclosing hcloses

/-- **One search.** -/
theorem completed_iff_of_begun {events : List EventMsg} {terminal : EventMsg}
    (hbegun : callId ∉ begunSearches events) (hterminal : endsTurn terminal = true)
    {s : ActiveToolState} (hs : s.webSearch = some callId) (shown : List ToolCallStatus) :
    (shown ++ shownStatuses codex client s callId (events ++ [terminal])).getLast? =
        some .completed ↔
      ∀ mid ended after, events = mid ++ .webSearchEnd ended :: after → ended.callId = callId →
        ∀ e ∈ mid, completesActiveWebSearchBefore e = false := by
  obtain ⟨hends, hown, hnone⟩ := completes_of_endsTurn hterminal callId
  have hlast : callId ∉ begunSearches [terminal] := by
    rw [hnone]
    exact List.not_mem_nil
  cases hfirst : events.find? completesActiveWebSearchBefore with
  | none =>
    -- The search is still remembered when the turn ends.
    have hopen : ∀ e ∈ events, completesActiveWebSearchBefore e = false := fun e he =>
      Bool.eq_false_iff.mpr (List.find?_eq_none.mp hfirst e he)
    rw [shownStatuses_closed hopen hends hlast hs, ← List.append_assoc]
    constructor
    · intro _ mid ended after hevents _ e he
      exact hopen e (hevents ▸ List.mem_append_left _ he)
    · exact fun _ => List.getLast?_concat
  | some closing =>
    obtain ⟨hcloses, mid, after, rfl, hmid⟩ := List.find?_eq_some_iff_append.mp hfirst
    have hopen : ∀ e ∈ mid, completesActiveWebSearchBefore e = false := fun e he =>
      Bool.not_eq_true' _ ▸ hmid e he
    have hafter : callId ∉ begunSearches (closing :: after) :=
      (not_mem_begunSearches_append.mp hbegun).2
    have hrest := (not_mem_begunSearches_cons.mp hafter).2
    have hstatuses := @shownStatuses_closed codex client callId mid (after ++ [terminal]) closing
      hopen hcloses (not_mem_begunSearches_append.mpr ⟨hafter, hlast⟩) s hs
    have htold : ∀ status ∈ after.filterMap (ownStatus callId), status ≠ .completed := by
      intro status h
      rw [ownStatus_inProgress hrest h]
      decide
    rw [List.filterMap_append, List.filterMap_cons_none hown, List.filterMap_nil,
      List.append_nil] at hstatuses
    rw [List.append_assoc, List.cons_append, hstatuses, ← List.append_assoc,
      getLast?_append_cons_iff htold, filterMap_ownStatus_eq_nil_iff hrest]
    exact toldInTime_iff hopen hcloses

end Runs

/-! ## Every search -/

section EverySearch

variable (codex : Codex) (client : SessionClient)

theorem exists_split_of_mem_begunSearches {events : List EventMsg} {callId : String}
    (h : callId ∈ begunSearches events) :
    ∃ before begun rest, events = before ++ .webSearchBegin begun :: rest ∧
      begun.callId = callId := by
  obtain ⟨event, hevent, hid⟩ := List.mem_filterMap.mp h
  cases event
  case webSearchBegin begun =>
    obtain ⟨before, rest, hevents⟩ := List.append_of_mem hevent
    exact ⟨before, begun, rest, hevents, Option.some.inj hid⟩
  all_goals cases hid

/-- With distinct ids, no search begins twice. -/
theorem not_mem_begunSearches_of_split {events before rest : List EventMsg}
    {begun : WebSearchBeginEvent} (hdistinct : (begunSearches events).Nodup)
    (hevents : events = before ++ .webSearchBegin begun :: rest) :
    begun.callId ∈ begunSearches events ∧ begun.callId ∉ begunSearches rest := by
  have happend : begunSearches events =
      begunSearches before ++ begun.callId :: begunSearches rest :=
    hevents ▸ begunSearches_append before _
  rw [happend] at hdistinct ⊢
  have hnodup := (List.nodup_append.mp hdistinct).2.1
  exact ⟨List.mem_append_right _ List.mem_cons_self, (List.nodup_cons.mp hnodup).1⟩

/-- **Every web search ends** as completed exactly when, for each of them, nothing that
completes the remembered search comes between its begin and its end. -/
theorem webSearches_completed_iff (s : ActiveToolState) {events : List EventMsg}
    {terminal : EventMsg} (hdistinct : (begunSearches events).Nodup)
    (hterminal : endsTurn terminal = true) :
    (∀ callId ∈ begunSearches events,
        (shownStatuses codex client s callId (events ++ [terminal])).getLast? =
          some .completed) ↔
      ∀ before begun mid ended after,
        events = before ++ .webSearchBegin begun :: mid ++ .webSearchEnd ended :: after →
        ended.callId = begun.callId →
        ∀ e ∈ mid, completesActiveWebSearchBefore e = false := by
  have hone : ∀ before begun rest, events = before ++ .webSearchBegin begun :: rest →
      begun.callId ∉ begunSearches rest →
      ((shownStatuses codex client s begun.callId (events ++ [terminal])).getLast? =
          some .completed ↔
        ∀ mid ended after, rest = mid ++ .webSearchEnd ended :: after →
          ended.callId = begun.callId → ∀ e ∈ mid, completesActiveWebSearchBefore e = false) := by
    intro before begun rest hevents hrest
    rw [hevents, List.append_assoc, List.cons_append, shownStatuses_append, shownStatuses_cons,
      ← List.append_assoc]
    exact completed_iff_of_begun hrest hterminal
      (ActiveToolState.webSearch_handleEvent codex client (.webSearchBegin begun) _) _
  constructor
  · intro h before begun mid ended after hevents hid e he
    have hsplit : events =
        before ++ .webSearchBegin begun :: (mid ++ .webSearchEnd ended :: after) :=
      hevents.trans (List.append_assoc _ _ _)
    obtain ⟨hmem, hrest⟩ := not_mem_begunSearches_of_split hdistinct hsplit
    exact (hone before begun _ hsplit hrest).mp (h _ hmem) mid ended after rfl hid e he
  · intro h callId hcallId
    obtain ⟨before, begun, rest, hsplit, rfl⟩ := exists_split_of_mem_begunSearches hcallId
    have hrest := (not_mem_begunSearches_of_split hdistinct hsplit).2
    refine (hone before begun rest hsplit hrest).mpr ?_
    intro mid ended after hmid hid
    refine h before begun mid ended after ?_ hid
    rw [hsplit, hmid, List.append_assoc]
    rfl

end EverySearch

def searchBegun (callId : String) : EventMsg := .webSearchBegin { callId := callId }

def searchEnded (callId : String) : EventMsg := .webSearchEnd { callId := callId }

def turnCompleted : EventMsg := .turnComplete { turnId := "turn" }

/-- A search alone. -/
theorem webSearches_completed_alone :
    (shownStatuses Codex.sample SessionClient.sample {} "first"
      ([searchBegun "first", .warning ⟨"Slow."⟩, searchEnded "first"] ++ [turnCompleted])).getLast? =
        some .completed := by
  refine (@webSearches_completed_iff Codex.sample SessionClient.sample {}
    [searchBegun "first", .warning ⟨"Slow."⟩, searchEnded "first"] turnCompleted (by decide) rfl).mpr ?_
    "first" (by decide)
  intro before begun mid ended after hevents hid e he
  have hmem : e ∈ [EventMsg.warning ⟨"Slow."⟩, searchEnded "first"] := by
    cases before with
    | nil =>
      rw [(List.cons.inj hevents).2]
      exact List.mem_append_left _ he
    | cons _ before =>
      rw [(List.cons.inj hevents).2]
      exact List.mem_append_left _ (List.mem_append_right _ (List.mem_cons_of_mem _ he))
  rcases List.mem_cons.mp hmem with rfl | hmem
  · rfl
  · rw [List.mem_singleton.mp hmem]
    rfl

/-- Every query is told of a search that began before. -/
def EndsFollowBegins (events : List EventMsg) : Prop :=
  ∀ k ended, events[k]? = some (.webSearchEnd ended) →
    ended.callId ∈ begunSearches (events.take k)

/-- Two searches at a time: the first is completed when the second begins, and shown in
progress again when its query is told. -/
def overlappingSearches : List EventMsg :=
  [searchBegun "first", searchBegun "second", searchEnded "first", searchEnded "second"]

theorem overlapping_search_left_in_progress :
    let statuses := shownStatuses Codex.sample SessionClient.sample {} "first"
      (overlappingSearches ++ [turnCompleted])
    (begunSearches overlappingSearches).Nodup ∧ EndsFollowBegins overlappingSearches ∧
      endsTurn turnCompleted = true ∧ "first" ∈ begunSearches overlappingSearches ∧
      statuses = [.pending, .completed, .inProgress] ∧ statuses.getLast? ≠ some .completed := by
  refine ⟨by decide, ?_, rfl, by decide, by decide, by decide⟩
  intro k ended hended
  rcases k with _ | _ | _ | _ | k
  · cases hended
  · cases hended
  · cases hended
    decide
  · cases hended
    decide
  · cases hended

end CodexAcp.Thread
