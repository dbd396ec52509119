import Mathlib.Data.List.Perm.Basic
import CodexAcp.Thread.Actor

/-!
# Tool calls of a replayed history

A history records a call as a response item, or the end of one as an event, and a
loaded session shows both. A call of a subagent is recorded in both ways: the tool
the agent called, and the event that tells how it ended. The editor is then told of
two tool calls with one id.

> `introducedIds_perm`: the ids that are introduced are those of the events, those
> of the response items, and ones made up for web searches.
> `exists_output_of_update`: a change of a tool call is shown for an output, after
> whatever the items before it introduce.
> `introducesEachOnce_iff`: a replay introduces each tool call once, before it
> changes it, exactly when no event ends a call that another event ends, or that a
> response item is shown for.
-/

namespace CodexAcp.Thread

open CodexAcp.Lib CodexAcp.Protocol CodexAcp.Boundary
open scoped List

/-! ## The ids of a history -/

/-- The id of the call that a response item is. -/
def calledId : ResponseItem → Option String
  | .functionCall _ callId | .customToolCall _ callId => some callId
  | .localShellCall callId _ => callId
  | _ => none

/-- The id a response item has as a call; a search of the web may have none. -/
def responseItemId : ResponseItem → Option String
  | .webSearchCall id _ => id
  | item => calledId item

/-- The id of the call that a response item is the output of. -/
def outputId : ResponseItem → Option String
  | .functionCallOutput callId | .customToolCallOutput callId => some callId
  | _ => none

/-- The id of the call of a subagent, or of the image, that an event tells the end of. -/
def endedId : EventMsg → Option String
  | .imageGenerationEnd event => some event.callId
  | .collabAgentSpawnEnd event => some event.callId
  | .collabAgentInteractionEnd event | .collabCloseEnd event | .collabResumeEnd event =>
    some event.callId
  | .collabWaitingEnd event => some event.callId
  | _ => none

/-- The kinds of ids that are made up. -/
def fallbackKinds : List String := ["web_search", "web_open", "web_find"]

/-- The kind of the id that is made up for a web search, if it has none that is used. -/
def fallbackKind : Option String → Option WebSearchAction → Option String
  | _, none | _, some .other | none, some .search => some "web_search"
  | none, some .openPage => some "web_open"
  | none, some .findInPage => some "web_find"
  | some _, some _ => none

def madeUpKind : ResponseItem → Option String
  | .webSearchCall id action => fallbackKind id action
  | _ => none

/-- The id a response item is shown with as a call, unless one is made up. -/
def shownId (item : ResponseItem) : Option String :=
  if madeUpKind item = none then responseItemId item else none

section Histories

/-- What an account of response items keeps of a history. -/
def ofResponseItems (f : ResponseItem → Option String) (history : List RolloutItem) :
    List String :=
  history.filterMap fun
    | .responseItem item => f item
    | _ => none

/-- The calls that response items record. -/
def calledIds : List RolloutItem → List String := ofResponseItems calledId

/-- The ids of the response items that are calls. -/
def responseItemIds : List RolloutItem → List String := ofResponseItems responseItemId

/-- The ids the response items of a history are shown with. -/
def shownIds : List RolloutItem → List String := ofResponseItems shownId

/-- The calls that the events of a history end. -/
def endedIds (history : List RolloutItem) : List String :=
  history.filterMap fun
    | .eventMsg msg => endedId msg
    | _ => none

/-- Every output comes after the call it is the output of. -/
def OutputsFollowCalls (history : List RolloutItem) : Prop :=
  ∀ before item after callId, history = before ++ .responseItem item :: after →
    outputId item = some callId → callId ∈ calledIds before

/-- What is made up is new: no two are the same, and no id of the history is one of them. -/
structure FreshUuids (codex : Codex) (history : List RolloutItem) : Prop where
  injective : Function.Injective codex.newUuid
  unused : ∀ kind ∈ fallbackKinds, ∀ n,
    generateFallbackId kind (codex.newUuid n) ∉ responseItemIds history ++ endedIds history

theorem ofResponseItems_cons (f : ResponseItem → Option String) (item : ResponseItem)
    (history : List RolloutItem) :
    ofResponseItems f (.responseItem item :: history) =
      (f item).toList ++ ofResponseItems f history := by
  unfold ofResponseItems
  cases hid : f item with
  | none => exact List.filterMap_cons_none hid
  | some callId => exact List.filterMap_cons_some hid

theorem endedIds_cons (msg : EventMsg) (history : List RolloutItem) :
    endedIds (.eventMsg msg :: history) = (endedId msg).toList ++ endedIds history := by
  unfold endedIds
  cases hid : endedId msg with
  | none => exact List.filterMap_cons_none hid
  | some callId => exact List.filterMap_cons_some hid

end Histories

/-! ## What is shown -/

/-- The tool calls that notifications introduce. -/
def introducedIds (updates : List SessionUpdate) : List String :=
  updates.filterMap fun
    | .toolCall toolCall => some toolCall.toolCallId
    | _ => none

/-- **One introduction each.** -/
structure IntroducesEachOnce (history : List RolloutItem) (updates : List SessionUpdate) :
    Prop where
  /-- Every call of the history is introduced, with the id it is shown with. -/
  introduced : ∀ callId ∈ shownIds history ++ endedIds history, callId ∈ introducedIds updates
  /-- And none twice. -/
  distinct : (introducedIds updates).Nodup
  /-- What changes a tool call comes after its introduction. -/
  follows : ∀ before update after, updates = before ++ .toolCallUpdate update :: after →
    update.toolCallId ∈ introducedIds before

section Replay

variable (codex : Codex)

/-- What the replay of an item sends, after `n` notifications. -/
def itemUpdates (n : Nat) : RolloutItem → List SessionUpdate
  | .eventMsg msg =>
    match routeReplayEventAction msg with
    | .effect (.forward update) => [update]
    | .registerPendingUserInput turnId event =>
      [.agentMessageChunk (.text (codex.requestUserInputPromptText
        (PendingUserInputRequest.fromEvent turnId event)))]
    | _ => []
  | .responseItem item =>
    (replayResponseItemPlan (codex.newUuid n) (routeReplayResponseItem item)).updates
  | .stateOnly => []

/-- What the replay of a history sends, after `n` notifications. -/
def historyUpdates (n : Nat) : List RolloutItem → List SessionUpdate
  | [] => []
  | item :: history =>
    itemUpdates codex n item ++ historyUpdates (n + (itemUpdates codex n item).length) history

theorem replayItem_sent (item : RolloutItem) (a : ThreadActor) :
    (a.replayItem codex item).world.sent =
      a.world.sent ++ itemUpdates codex a.world.sent.length item := by
  cases item with
  | responseItem item =>
    show (a.replayResponseItem codex (routeReplayResponseItem item)).world.sent = _
    rw [ThreadActor.replayResponseItem_eq]
    rfl
  | stateOnly => exact (List.append_nil _).symm
  | eventMsg msg =>
    show (a.replayEventPlan codex (routeReplayEventMsg msg)).world.sent = _
    unfold ThreadActor.replayEventPlan itemUpdates
    rw [show (routeReplayEventMsg msg).action = routeReplayEventAction msg from rfl]
    dsimp only
    cases routeReplayEventAction msg with
    | effect effect =>
      cases effect with
      | forward update => rfl
      | rendered => exact (List.append_nil _).symm
    | registerPendingUserInput turnId event => rfl
    | _ => exact (List.append_nil _).symm

/-- **A replay** sends what it sends of its items, one after the other. -/
theorem handleReplayHistory_sent (history : List RolloutItem) (a : ThreadActor) :
    (a.handleReplayHistory codex history).world.sent =
      a.world.sent ++ historyUpdates codex a.world.sent.length history := by
  unfold ThreadActor.handleReplayHistory
  induction history generalizing a with
  | nil => exact (List.append_nil _).symm
  | cons item history ih =>
    rw [List.foldl_cons, ih, replayItem_sent, List.length_append, List.append_assoc]
    rfl

/-! ## What an item introduces -/

theorem introducedIds_append (updates updates' : List SessionUpdate) :
    introducedIds (updates ++ updates') = introducedIds updates ++ introducedIds updates' :=
  List.filterMap_append

theorem introducedIds_eventMsg (n : Nat) (msg : EventMsg) :
    introducedIds (itemUpdates codex n (.eventMsg msg)) = (endedId msg).toList := by
  cases msg
  case turnAborted event =>
    obtain ⟨turnId⟩ := event
    cases turnId <;> rfl
  all_goals rfl

/-- The id that is made up for a response item, if one is. -/
def madeUpIds (n : Nat) (item : ResponseItem) : List String :=
  ((madeUpKind item).map fun kind => generateFallbackId kind (codex.newUuid n)).toList

/-- A response item that is a call is introduced with its id, or with one that is made up. -/
theorem introducedIds_responseItem (n : Nat) (item : ResponseItem) :
    introducedIds (itemUpdates codex n (.responseItem item)) =
      (shownId item).toList ++ madeUpIds codex n item := by
  show introducedIds
    (replayResponseItemPlan (codex.newUuid n) (routeReplayResponseItem item)).updates = _
  cases item with
  | functionCall name callId => rw [replayResponseItemPlan_functionCall]; rfl
  | customToolCall name callId => rw [replayResponseItemPlan_customToolCall]; rfl
  | localShellCall callId status => cases callId <;> rfl
  | webSearchCall id action =>
    cases action with
    | none => cases id <;> rfl
    | some action => cases action <;> cases id <;> rfl
  | _ => rfl

/-- A tool call is changed for its output. -/
theorem outputId_of_update {n : Nat} {item : RolloutItem} {update : ToolCallUpdate}
    (h : .toolCallUpdate update ∈ itemUpdates codex n item) :
    ∃ response, item = .responseItem response ∧ outputId response = some update.toolCallId := by
  cases item with
  | stateOnly => exact absurd h List.not_mem_nil
  | eventMsg msg =>
    exfalso
    cases msg
    case turnAborted event =>
      obtain ⟨turnId⟩ := event
      cases turnId <;> exact absurd h List.not_mem_nil
    all_goals
      unfold itemUpdates routeReplayEventAction at h
      first
      | exact absurd h List.not_mem_nil
      | exact nomatch List.mem_singleton.mp h
  | responseItem response =>
    refine ⟨response, rfl, ?_⟩
    replace h : _ ∈ (replayResponseItemPlan _ (routeReplayResponseItem response)).updates := h
    cases response
    case functionCallOutput callId | customToolCallOutput callId =>
      cases List.mem_singleton.mp h
      rfl
    case functionCall name callId =>
      rw [replayResponseItemPlan_functionCall] at h
      cases List.mem_singleton.mp h
    case customToolCall name callId =>
      rw [replayResponseItemPlan_customToolCall] at h
      cases List.mem_singleton.mp h
    case localShellCall callId status =>
      cases callId with
      | none => exact absurd h List.not_mem_nil
      | some callId => cases List.mem_singleton.mp h
    case webSearchCall => cases List.mem_singleton.mp h
    all_goals exact absurd h List.not_mem_nil

/-! ## What a history introduces -/

/-- Ids of different kinds differ, and those of one kind when their unique parts do. -/
theorem generateFallbackId_inj {kind kind' uuid uuid' : String} (hkind : kind ∈ fallbackKinds)
    (hkind' : kind' ∈ fallbackKinds)
    (h : generateFallbackId kind uuid = generateFallbackId kind' uuid') : uuid = uuid' := by
  have hlist := congrArg String.toList h
  unfold generateFallbackId at hlist
  simp only [fallbackKinds, List.mem_cons, List.not_mem_nil, or_false] at hkind hkind'
  rcases hkind with rfl | rfl | rfl <;> rcases hkind' with rfl | rfl | rfl
  all_goals simp at hlist
  all_goals exact String.toList_inj.mp hlist

theorem madeUpKind_mem {item : ResponseItem} {kind : String} (h : madeUpKind item = some kind) :
    kind ∈ fallbackKinds := by
  cases item
  case webSearchCall id action =>
    cases action with
    | none => cases id <;> cases h <;> decide
    | some action => cases action <;> cases id <;> cases h <;> decide
  all_goals cases h

theorem nodup_madeUpIds (n : Nat) (item : ResponseItem) : (madeUpIds codex n item).Nodup := by
  unfold madeUpIds
  cases madeUpKind item with
  | none => exact List.nodup_nil
  | some kind => exact List.nodup_singleton _

/-- Whatever has an id made up is sent, so the next uuid is another one. -/
theorem mem_madeUpIds {n : Nat} {item : ResponseItem} {callId : String}
    (h : callId ∈ madeUpIds codex n item) :
    (∃ kind ∈ fallbackKinds, callId = generateFallbackId kind (codex.newUuid n)) ∧
      0 < (itemUpdates codex n (.responseItem item)).length := by
  constructor
  · obtain ⟨kind, hkind, hid⟩ := Option.map_eq_some_iff.mp (Option.mem_toList.mp h)
    exact ⟨kind, madeUpKind_mem hkind, hid.symm⟩
  · have hmem : callId ∈ introducedIds (itemUpdates codex n (.responseItem item)) := by
      rw [introducedIds_responseItem]
      exact List.mem_append_right _ h
    exact Nat.lt_of_lt_of_le (List.length_pos_of_mem hmem) (List.length_filterMap_le _ _)

/-- An id made up from the `n`-th uuid on. -/
def MadeUpFrom (n : Nat) (callId : String) : Prop :=
  ∃ kind ∈ fallbackKinds, ∃ k, n ≤ k ∧ callId = generateFallbackId kind (codex.newUuid k)

theorem MadeUpFrom.mono {n m : Nat} (hle : n ≤ m) {callId : String}
    (h : MadeUpFrom codex m callId) : MadeUpFrom codex n callId := by
  obtain ⟨kind, hkind, k, hk, hid⟩ := h
  exact ⟨kind, hkind, k, Nat.le_trans hle hk, hid⟩

variable {codex}

/-- Two parts in front of a list in three parts go to the second and the third of them. -/
theorem perm_append_parts {α : Type} {all ended shown made : List α} (shown' made' : List α)
    (h : all.Perm (ended ++ (shown ++ made))) :
    ((shown' ++ made') ++ all).Perm (ended ++ ((shown' ++ shown) ++ (made' ++ made))) := by
  calc (shown' ++ made') ++ all
      _ = shown' ++ (made' ++ all) := List.append_assoc _ _ _
      _ ~ shown' ++ (made' ++ (ended ++ (shown ++ made))) := (h.append_left _).append_left _
      _ ~ shown' ++ (ended ++ (made' ++ (shown ++ made))) :=
        (List.perm_append_comm_assoc _ _ _).append_left _
      _ ~ ended ++ (shown' ++ (made' ++ (shown ++ made))) := List.perm_append_comm_assoc _ _ _
      _ ~ ended ++ (shown' ++ (shown ++ (made' ++ made))) :=
        ((List.perm_append_comm_assoc _ _ _).append_left _).append_left _
      _ = ended ++ ((shown' ++ shown) ++ (made' ++ made)) := by rw [List.append_assoc]

/-- **The ids of a history**, each as often as it is introduced. -/
theorem introducedIds_perm (hinjective : Function.Injective codex.newUuid)
    (history : List RolloutItem) (n : Nat) :
    ∃ madeUp, (introducedIds (historyUpdates codex n history)).Perm
        (endedIds history ++ (shownIds history ++ madeUp)) ∧
      madeUp.Nodup ∧ ∀ callId ∈ madeUp, MadeUpFrom codex n callId := by
  induction history generalizing n with
  | nil => exact ⟨[], .refl _, .nil, fun _ h => absurd h List.not_mem_nil⟩
  | cons item history ih =>
    obtain ⟨madeUp, hperm, hdistinct, hfrom⟩ := ih (n + (itemUpdates codex n item).length)
    have hkept : ∀ callId ∈ madeUp, MadeUpFrom codex n callId := fun callId h =>
      (hfrom callId h).mono codex (Nat.le_add_right _ _)
    have hsplit : introducedIds (historyUpdates codex n (item :: history)) =
        introducedIds (itemUpdates codex n item) ++ introducedIds (historyUpdates codex
          (n + (itemUpdates codex n item).length) history) := introducedIds_append _ _
    cases item with
    | stateOnly => exact ⟨madeUp, hsplit ▸ hperm, hdistinct, hkept⟩
    | eventMsg msg =>
      refine ⟨madeUp, ?_, hdistinct, hkept⟩
      rw [hsplit, introducedIds_eventMsg, endedIds_cons, List.append_assoc]
      exact hperm.append_left _
    | responseItem response =>
      have hshown : shownIds (.responseItem response :: history) = _ :=
        ofResponseItems_cons shownId response history
      refine ⟨madeUpIds codex n response ++ madeUp, ?_, ?_, ?_⟩
      · rw [hsplit, introducedIds_responseItem, hshown]
        exact perm_append_parts _ _ hperm
      · refine List.nodup_append.mpr ⟨nodup_madeUpIds codex n response, hdistinct, ?_⟩
        intro callId hcallId callId' hcallId' heq
        obtain ⟨⟨kind, hkind, hid⟩, hsent⟩ := mem_madeUpIds codex hcallId
        obtain ⟨kind', hkind', k, hk, hid'⟩ := hfrom callId' hcallId'
        have huuid := hinjective
          (generateFallbackId_inj hkind hkind' (hid.symm.trans (heq.trans hid')))
        omega
      · intro callId hcallId
        rcases List.mem_append.mp hcallId with hcallId | hcallId
        · obtain ⟨⟨kind, hkind, hid⟩, _⟩ := mem_madeUpIds codex hcallId
          exact ⟨kind, hkind, n, Nat.le_refl n, hid⟩
        · exact hkept callId hcallId

/-! ## Changes after introductions -/

theorem shownId_of_calledId {item : ResponseItem} {callId : String}
    (h : calledId item = some callId) : shownId item = some callId := by
  cases item
  case functionCall | customToolCall | localShellCall => exact h
  all_goals cases h

theorem mem_introducedIds_of_calledId {n : Nat} {item : ResponseItem} {callId : String}
    (h : calledId item = some callId) :
    callId ∈ introducedIds (itemUpdates codex n (.responseItem item)) := by
  rw [introducedIds_responseItem, shownId_of_calledId h]
  exact List.mem_append_left _ (List.mem_singleton_self _)

theorem mem_calledIds_cons {item : RolloutItem} {history : List RolloutItem} {callId : String}
    (h : callId ∈ calledIds (item :: history)) :
    (∃ response, item = .responseItem response ∧ calledId response = some callId) ∨
      callId ∈ calledIds history := by
  obtain ⟨found, hfound, hid⟩ := List.mem_filterMap.mp h
  cases found with
  | responseItem response =>
    rcases List.mem_cons.mp hfound with hitem | hrest
    · exact .inl ⟨response, hitem.symm, hid⟩
    · exact .inr (List.mem_filterMap.mpr ⟨_, hrest, hid⟩)
  | eventMsg | stateOnly => cases hid

/-- **A change** is shown for an output, and all the calls before it have been introduced. -/
theorem exists_output_of_update {history : List RolloutItem} {n : Nat}
    {before after : List SessionUpdate} {update : ToolCallUpdate}
    (h : historyUpdates codex n history = before ++ .toolCallUpdate update :: after) :
    ∃ earlier item later, history = earlier ++ .responseItem item :: later ∧
      outputId item = some update.toolCallId ∧
      ∀ callId ∈ calledIds earlier, callId ∈ introducedIds before := by
  induction history generalizing n before with
  | nil => exact absurd h.symm (List.append_ne_nil_of_right_ne_nil _ (List.cons_ne_nil _ _))
  | cons item history ih =>
    have hplace : (∃ rest, before = itemUpdates codex n item ++ rest ∧
        historyUpdates codex (n + (itemUpdates codex n item).length) history =
          rest ++ .toolCallUpdate update :: after) ∨
        .toolCallUpdate update ∈ itemUpdates codex n item := by
      rcases List.append_eq_append_iff.mp h with hlater | ⟨_ | ⟨first, rest⟩, hitem, hrest⟩
      · exact .inl hlater
      · exact .inl ⟨[], by rw [hitem, List.append_nil, List.append_nil], hrest.symm⟩
      · obtain rfl := (List.cons.inj hrest).1
        exact .inr (hitem ▸ List.mem_append_right _ List.mem_cons_self)
    rcases hplace with ⟨rest, hbefore, hrest⟩ | hmem
    · obtain ⟨earlier, found, later, hhistory, hid, hcalled⟩ := ih hrest
      refine ⟨item :: earlier, found, later, by rw [hhistory]; rfl, hid, ?_⟩
      intro callId hcallId
      rw [hbefore, introducedIds_append]
      rcases mem_calledIds_cons hcallId with ⟨response, rfl, hcall⟩ | hcallId
      · exact List.mem_append_left _ (mem_introducedIds_of_calledId hcall)
      · exact List.mem_append_right _ (hcalled callId hcallId)
    · obtain ⟨response, rfl, hid⟩ := outputId_of_update codex hmem
      exact ⟨[], response, history, rfl, hid, fun _ h => absurd h List.not_mem_nil⟩

/-! ## The whole history -/

theorem shownIds_sublist (history : List RolloutItem) :
    (shownIds history).Sublist (responseItemIds history) := by
  induction history with
  | nil => exact .refl _
  | cons item history ih =>
    cases item with
    | eventMsg | stateOnly => exact ih
    | responseItem response =>
      unfold shownIds responseItemIds at ih ⊢
      rw [ofResponseItems_cons, ofResponseItems_cons]
      refine List.Sublist.append ?_ ih
      show (shownId response).toList.Sublist (responseItemId response).toList
      unfold shownId
      split
      · exact .refl _
      · exact List.nil_sublist _

/-- No id is made up that the history has. -/
theorem FreshUuids.not_mem {history : List RolloutItem} (hfresh : FreshUuids codex history)
    {n : Nat} {callId : String} (h : MadeUpFrom codex n callId) :
    callId ∉ responseItemIds history ∧ callId ∉ endedIds history := by
  obtain ⟨kind, hkind, k, _, rfl⟩ := h
  have hunused := hfresh.unused kind hkind k
  rw [List.mem_append] at hunused
  exact not_or.mp hunused

theorem nodup_introducedIds_iff {history : List RolloutItem}
    (hdistinct : (responseItemIds history).Nodup) (hfresh : FreshUuids codex history) (n : Nat) :
    (introducedIds (historyUpdates codex n history)).Nodup ↔
      (endedIds history).Nodup ∧ ∀ callId ∈ endedIds history, callId ∉ shownIds history := by
  obtain ⟨madeUp, hperm, hmadeUp, hfrom⟩ := introducedIds_perm hfresh.injective history n
  have hshown : (shownIds history ++ madeUp).Nodup := by
    refine List.nodup_append.mpr ⟨hdistinct.sublist (shownIds_sublist history), hmadeUp, ?_⟩
    intro callId hcallId callId' hcallId' heq
    exact (hfresh.not_mem (hfrom callId' hcallId')).1
      (heq ▸ (shownIds_sublist history).subset hcallId)
  rw [hperm.nodup_iff, List.nodup_append]
  constructor
  · intro ⟨hended, _, hdisjoint⟩
    exact ⟨hended, fun callId hcallId hshown =>
      hdisjoint callId hcallId callId (List.mem_append_left _ hshown) rfl⟩
  · intro ⟨hended, hdisjoint⟩
    refine ⟨hended, hshown, ?_⟩
    intro callId hcallId callId' hcallId' heq
    rcases List.mem_append.mp hcallId' with hcallId' | hcallId'
    · exact hdisjoint callId hcallId (heq ▸ hcallId')
    · exact (hfresh.not_mem (hfrom callId' hcallId')).2 (heq ▸ hcallId)

/-- **Each tool call once**: exactly when no event ends a call that another event ends, or
that a response item is shown for. -/
theorem introducesEachOnce_iff (a : ThreadActor) {history : List RolloutItem}
    (hdistinct : (responseItemIds history).Nodup) (hfollow : OutputsFollowCalls history)
    (hfresh : FreshUuids codex history) :
    ∃ updates, (a.handleReplayHistory codex history).world.sent = a.world.sent ++ updates ∧
      (IntroducesEachOnce history updates ↔
        (endedIds history).Nodup ∧ ∀ callId ∈ endedIds history, callId ∉ shownIds history) := by
  refine ⟨_, handleReplayHistory_sent codex history a, ?_⟩
  rw [← nodup_introducedIds_iff hdistinct hfresh a.world.sent.length]
  constructor
  · exact fun h => h.distinct
  · intro hnodup
    refine ⟨?_, hnodup, ?_⟩
    · intro callId hcallId
      obtain ⟨madeUp, hperm, _, _⟩ :=
        introducedIds_perm hfresh.injective history a.world.sent.length
      rw [hperm.mem_iff]
      rcases List.mem_append.mp hcallId with hcallId | hcallId
      · exact List.mem_append_right _ (List.mem_append_left _ hcallId)
      · exact List.mem_append_left _ hcallId
    · intro before update after hupdates
      obtain ⟨earlier, item, later, hhistory, hid, hcalled⟩ := exists_output_of_update hupdates
      exact hcalled _ (hfollow earlier item later _ hhistory hid)

end Replay

/-! ## Two histories -/

theorem freshUuids_sample {history : List RolloutItem}
    (hids : ∀ callId ∈ responseItemIds history ++ endedIds history,
      callId.toList.head? ≠ some 'w') : FreshUuids Codex.sample history where
  injective n m h := by
    have hlist : List.replicate n '0' = List.replicate m '0' := String.ofList_injective h
    have hlength := congrArg List.length hlist
    rwa [List.length_replicate, List.length_replicate] at hlength
  unused kind hkind n h := by
    refine hids _ h ?_
    unfold generateFallbackId
    rw [String.toList_append, String.toList_append]
    simp only [fallbackKinds, List.mem_cons, List.not_mem_nil, or_false] at hkind
    rcases hkind with rfl | rfl | rfl <;> rfl

def sampleActor : ThreadActor := (Running.start Config.sample ModelsManager.sample).actor

def sampleSpawnEnd (callId : String) : RolloutItem :=
  .eventMsg (.collabAgentSpawnEnd
    { callId := callId, newThreadId := some "agent", newAgentNickname := none
      newAgentRole := none, status := .running })

/-- A command, a search of the web, and a subagent whose call was not recorded. -/
def recordedOnce : List RolloutItem :=
  [.responseItem (.functionCall "shell" "call"), .responseItem (.functionCallOutput "call"),
   .responseItem (.webSearchCall none (some .search)), sampleSpawnEnd "agent"]

theorem introducesEachOnce_recordedOnce :
    ∃ updates, (sampleActor.handleReplayHistory Codex.sample recordedOnce).world.sent =
        sampleActor.world.sent ++ updates ∧ IntroducesEachOnce recordedOnce updates := by
  have hfollow : OutputsFollowCalls recordedOnce := by
    intro before item after callId h hid
    rcases before with _ | ⟨_, _ | ⟨_, _ | ⟨_, _ | ⟨_, before⟩⟩⟩⟩
    · cases h
      cases hid
    · cases h
      cases hid
      decide
    · cases h
      cases hid
    · cases h
    · have hlength := congrArg List.length h
      simp [recordedOnce] at hlength
  obtain ⟨updates, hsent, hiff⟩ := introducesEachOnce_iff sampleActor
    (by decide : (responseItemIds recordedOnce).Nodup) hfollow
    (freshUuids_sample (by decide))
  exact ⟨updates, hsent, hiff.mpr ⟨by decide, by decide⟩⟩

/-- A subagent, as the call of a tool and as an event. -/
def recordedTwice : List RolloutItem :=
  [.responseItem (.functionCall "spawn_agent" "call"), sampleSpawnEnd "call",
   .responseItem (.functionCallOutput "call")]

theorem spawned_agent_introduced_twice :
    (responseItemIds recordedTwice).Nodup ∧ OutputsFollowCalls recordedTwice ∧
      FreshUuids Codex.sample recordedTwice ∧
      ∃ updates, (sampleActor.handleReplayHistory Codex.sample recordedTwice).world.sent =
          sampleActor.world.sent ++ updates ∧
        introducedIds updates = ["call", "call"] ∧ ¬ IntroducesEachOnce recordedTwice updates := by
  refine ⟨by decide, ?_, freshUuids_sample (by decide), _,
    handleReplayHistory_sent Codex.sample recordedTwice sampleActor, by decide, ?_⟩
  · intro before item after callId h hid
    rcases before with _ | ⟨_, _ | ⟨_, _ | ⟨_, before⟩⟩⟩
    · cases h
      cases hid
    · cases h
    · cases h
      cases hid
      decide
    · have hlength := congrArg List.length h
      simp [recordedTwice] at hlength
  · exact fun h => absurd h.distinct (by decide)

end CodexAcp.Thread
