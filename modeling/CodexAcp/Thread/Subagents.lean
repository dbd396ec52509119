import Mathlib.Data.List.Dedup
import Mathlib.Data.String.Basic
import CodexAcp.Display.Agents
import CodexAcp.Lib.Sorted
import CodexAcp.Thread.KnownAgents

/-!
# The list of subagents

`/agent` lists the agents that the session knows, by their labels. It reads them from a
hash map.

> `subagents_listed`: these are the agents that were reported on and not closed since, each
> once and as it was reported on last, whatever order the map has.
-/

namespace CodexAcp.Thread

open CodexAcp.Lib CodexAcp.Protocol CodexAcp.Boundary

/-- What the list is ordered by. -/
def entryLabel (entry : CollabAgentStatusEntry) : String :=
  formatAgentLabel entry.agentNickname entry.agentRole (some entry.threadId)

namespace ActorState

def knownCollabAgentCount (s : ActorState) : Nat := s.knownCollabAgents.entries.length

def knownCollabAgentsSorted (s : ActorState) : List CollabAgentStatusEntry :=
  sortOn entryLabel (Dict.values s.knownCollabAgents)

end ActorState

/-- What is said of some agents. -/
def agentsText (collaborationMode : String) (agents : List CollabAgentStatusEntry) : String :=
  if agents.length = 0 then
    "Collaboration mode: " ++ collaborationMode ++
      "\n\nNo known subagents are being tracked in this session.\nSpawned subagent activity " ++
      "will still appear inline when Codex uses it."
  else
    "Collaboration mode: " ++ collaborationMode ++ "\n\nKnown subagents:\n" ++
      "\n".intercalate (agents.map formatCollabStatusEntry)

def subagentSummary (codex : Codex) (s : ActorState) : String :=
  agentsText (codex.modeDisplayName s.collaborationModeKindOrDefault) s.knownCollabAgentsSorted

/-! ## What is said of an agent -/

/-- What an event says of an agent: it is closed, or reported on. -/
def agentSaid (threadId : ThreadId) (event : EventMsg) : Option (Option CollabAgentStatusEntry) :=
  if closedAgent event = some threadId then some none
  else (lastReport threadId event).map some

/-- An agent as it was reported on last, if it was not closed since. -/
def knownAgent (events : List EventMsg) (threadId : ThreadId) : Option CollabAgentStatusEntry :=
  (events.filterMap (agentSaid threadId)).getLast?.getD none

/-- The agents that events report on. -/
def reportedAgents (events : List EventMsg) : List ThreadId :=
  (events.flatMap fun event => (agentReports event).map (·.threadId)).dedup

/-- The agents that are known, in the order they were first reported on. -/
def knownAgents (events : List EventMsg) : List CollabAgentStatusEntry :=
  (reportedAgents events).filterMap (knownAgent events)

section

variable {threadId : ThreadId} {entry : CollabAgentStatusEntry}

theorem lookup_agentEvents (event : EventMsg) (s : ActorState) :
    (agentEvents event s).2.knownCollabAgents.lookup threadId =
      (agentSaid threadId event).getD (s.knownCollabAgents.lookup threadId) := by
  show (s.applyEventUpdates (actorStateUpdates event)).knownCollabAgents.lookup threadId = _
  rw [lookup_event, agentSaid]
  split
  · rfl
  · cases lastReport threadId event <;> rfl

/-- The map has what was said last. -/
theorem lookup_stateAfter (s : ActorState) (events : List EventMsg) (threadId : ThreadId) :
    (stateAfter s events).knownCollabAgents.lookup threadId = knownAgent events threadId :=
  Transducer.part_final (t := agentEvents) (fun s => s.knownCollabAgents.lookup threadId)
    lookup_agentEvents { s with knownCollabAgents := ∅ } events

theorem threadId_lastReport {event : EventMsg} (h : lastReport threadId event = some entry) :
    entry ∈ agentReports event ∧ entry.threadId = threadId := by
  have hmem := List.mem_of_getLast? h
  rw [List.mem_filter] at hmem
  exact ⟨hmem.1, of_decide_eq_true hmem.2⟩

/-- What is known of an agent was reported on it. -/
theorem reported_of_knownAgent {events : List EventMsg}
    (h : knownAgent events threadId = some entry) :
    threadId ∈ reportedAgents events ∧ entry.threadId = threadId := by
  have hlast : (events.filterMap (agentSaid threadId)).getLast? = some (some entry) := by
    unfold knownAgent at h
    cases hlast : (events.filterMap (agentSaid threadId)).getLast? with
    | none =>
      rw [hlast] at h
      cases h
    | some said =>
      rw [hlast] at h
      cases h
      rfl
  obtain ⟨event, hevent, hsaid⟩ := List.mem_filterMap.mp (List.mem_of_getLast? hlast)
  unfold agentSaid at hsaid
  split at hsaid
  · cases hsaid
  · obtain ⟨report, hreport, heq⟩ := Option.map_eq_some_iff.mp hsaid
    cases heq
    obtain ⟨hmem, hthread⟩ := threadId_lastReport hreport
    refine ⟨List.mem_dedup.mpr (List.mem_flatMap.mpr ⟨event, hevent, ?_⟩), hthread⟩
    exact List.mem_map.mpr ⟨entry, hmem, hthread⟩

end

/-! ## What is listed -/

theorem values_perm_knownAgents (s : ActorState) (events : List EventMsg) :
    (Dict.values (stateAfter s events).knownCollabAgents).Perm (knownAgents events) := by
  have hvalues : (Dict.values (stateAfter s events).knownCollabAgents).Perm
      ((reportedAgents events).filterMap (stateAfter s events).knownCollabAgents.lookup) :=
    Dict.values_perm_filterMap (List.nodup_dedup _) fun threadId entry h =>
      (reported_of_knownAgent ((lookup_stateAfter s events threadId).symm.trans h)).1
  exact hvalues.trans
    (.of_eq (List.filterMap_congr fun threadId _ => lookup_stateAfter s events threadId))

/-- The agents that are known have distinct ids. -/
theorem threadId_knownAgents (events : List EventMsg) :
    ((knownAgents events).map (·.threadId)).Nodup := by
  have hids : (knownAgents events).map (·.threadId) =
      (reportedAgents events).filter fun threadId => (knownAgent events threadId).isSome := by
    unfold knownAgents
    rw [List.map_filterMap, ← List.filterMap_eq_filter]
    refine List.filterMap_congr fun threadId _ => ?_
    cases hknown : knownAgent events threadId with
    | none => simp [Option.guard, hknown]
    | some entry => simp [Option.guard, hknown, (reported_of_knownAgent hknown).2]
  rw [hids]
  exact (List.nodup_dedup _).filter _

/-- And distinct labels, as no id has a parenthesis. -/
theorem entryLabel_knownAgents {events : List EventMsg}
    (hids : ∀ threadId ∈ reportedAgents events, '(' ∉ threadId.toList) :
    ((knownAgents events).map entryLabel).Nodup := by
  have hplain : ∀ entry ∈ knownAgents events, '(' ∉ entry.threadId.toList := by
    intro entry hentry
    obtain ⟨threadId, -, hknown⟩ := List.mem_filterMap.mp hentry
    obtain ⟨hmem, hthread⟩ := reported_of_knownAgent hknown
    rw [hthread]
    exact hids threadId hmem
  refine List.pairwise_map.mpr ((List.pairwise_map.mp (threadId_knownAgents events)).imp_of_mem ?_)
  intro entry entry' hentry hentry' hne hlabel
  exact hne (formatAgentLabel_inj (hplain entry hentry) (hplain entry' hentry') hlabel)

/-- **The list of subagents.** -/
theorem subagents_listed (codex : Codex) (s : ActorState) {events : List EventMsg}
    (hids : ∀ threadId ∈ reportedAgents events, '(' ∉ threadId.toList) :
    (∀ agents, agents.Perm (Dict.values (stateAfter s events).knownCollabAgents) →
      sortOn entryLabel agents = sortOn entryLabel (knownAgents events)) ∧
    (stateAfter s events).knownCollabAgentCount = (knownAgents events).length ∧
    subagentSummary codex (stateAfter s events) =
      agentsText (codex.modeDisplayName (stateAfter s events).collaborationModeKindOrDefault)
        (sortOn entryLabel (knownAgents events)) := by
  have hvalues := values_perm_knownAgents s events
  have hsorted : ∀ agents : List CollabAgentStatusEntry, agents.Perm (knownAgents events) →
      sortOn entryLabel agents = sortOn entryLabel (knownAgents events) := fun agents hagents =>
    (sortOn_eq_of_perm entryLabel hagents.symm (entryLabel_knownAgents hids)).symm
  refine ⟨fun agents hagents => hsorted agents (hagents.trans hvalues), ?_, ?_⟩
  · exact (List.length_map _).symm.trans hvalues.length_eq
  · exact congrArg (agentsText _) (hsorted _ hvalues)

/-- For concrete runs: two agents, of which one is closed. -/
def sampleAgentEvents : List EventMsg :=
  [.collabAgentSpawnEnd
     { callId := "call-1", newThreadId := some "1", newAgentNickname := some "Ada"
       newAgentRole := none, status := .running },
   .collabAgentSpawnEnd
     { callId := "call-2", newThreadId := some "2", newAgentNickname := some "Bob"
       newAgentRole := none, status := .running },
   .collabCloseEnd
     { callId := "call-3", receiverThreadId := "1", receiverAgentNickname := none
       receiverAgentRole := none, status := .shutdown }]

/-- The other one is listed. -/
theorem subagents_listed_after_close :
    subagentSummary .sample (stateAfter {} sampleAgentEvents) =
      "Collaboration mode: Default\n\nKnown subagents:\nBob (2): running" := by
  have hids : ∀ threadId ∈ reportedAgents sampleAgentEvents, '(' ∉ threadId.toList := by decide
  have hknown : knownAgents sampleAgentEvents =
      [{ threadId := "2", agentNickname := some "Bob", agentRole := none, status := .running }] := by
    decide
  obtain ⟨-, -, hsummary⟩ := subagents_listed .sample {} hids
  rw [hsummary, hknown, sortOn, List.mergeSort_singleton]
  decide

end CodexAcp.Thread
