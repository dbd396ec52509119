import CodexAcp.Lib.Transducer
import CodexAcp.Thread.ActorState

/-!
# The agents a session knows

Five kinds of events report on the agents of a session: when one was spawned, was
interacted with, was waited for, resumed or closed. Each report is stored whole,
in the place of the one before, and a report may leave out the agent's nickname and
role.

`AgentsKept` says what a user may expect of it: an agent that is known has the last
nickname and the last role that were given for it, and an event that tells a status
and no more changes no more.

> `knownAgents_kept_iff`: along every sequence of events this is so exactly when an
> agent's nickname and role, once given, are given by every event that reports on it.
> `waitedAgent_nameless`: a spawned agent is waited for, and has no name any more.
-/

namespace CodexAcp.Thread

open CodexAcp.Lib CodexAcp.Protocol CodexAcp.Boundary

/-! ## What events report -/

/-- The reports of an event, in order. -/
def agentReports : EventMsg → List CollabAgentStatusEntry
  | .collabAgentSpawnEnd event =>
    event.newThreadId.toList.map fun threadId =>
      { threadId := threadId, agentNickname := event.newAgentNickname
        agentRole := event.newAgentRole, status := event.status }
  | .collabAgentInteractionEnd event | .collabResumeEnd event =>
    [{ threadId := event.receiverThreadId, agentNickname := event.receiverAgentNickname
       agentRole := event.receiverAgentRole, status := event.status }]
  | .collabWaitingEnd event =>
    if event.agentStatuses.isEmpty then
      event.statuses.map fun (threadId, status) =>
        { threadId := threadId, agentNickname := none, agentRole := none, status := status }
    else event.agentStatuses
  | _ => []

/-- The agent an event removes. -/
def closedAgent : EventMsg → Option ThreadId
  | .collabCloseEnd event => some event.receiverThreadId
  | _ => none

/-- The last report of an event on an agent. -/
def lastReport (threadId : ThreadId) (event : EventMsg) : Option CollabAgentStatusEntry :=
  ((agentReports event).filter fun report => report.threadId = threadId).getLast?

/-- The nickname and the role of an agent, as far as they were given. -/
structure AgentIdentity where
  nickname : Option String := none
  role : Option String := none
  deriving DecidableEq, Repr

/-- What a report gives; an empty name is none. -/
def identityOf (report : CollabAgentStatusEntry) : AgentIdentity where
  nickname := report.agentNickname.filter (· ≠ "")
  role := report.agentRole.filter (· ≠ "")

/-- The last nickname and the last role, once a report is heard. -/
def AgentIdentity.hear (heard : AgentIdentity) (report : CollabAgentStatusEntry) :
    AgentIdentity where
  nickname := (identityOf report).nickname.or heard.nickname
  role := (identityOf report).role.or heard.role

/-- What was heard of every agent since it was last removed. -/
abbrev Heard := ThreadId → AgentIdentity

def Heard.after (heard : Heard) (event : EventMsg) : Heard := fun threadId =>
  if closedAgent event = some threadId then {}
  else
    ((agentReports event).filter fun report => report.threadId = threadId).foldl
      AgentIdentity.hear (heard threadId)

def heardIn (events : List EventMsg) : Heard := events.foldl Heard.after fun _ => {}

/-- The event reports on agents, and gives neither nickname nor role of any. -/
def OnlyStatus (event : EventMsg) : Prop :=
  agentReports event ≠ [] ∧ ∀ report ∈ agentReports event, identityOf report = {}

/-! ## What is expected of the state -/

/-- The state after events, starting with no agent. -/
def stateAfter (s : ActorState) (events : List EventMsg) : ActorState :=
  events.foldl (fun s event => s.applyEventUpdates (actorStateUpdates event))
    { s with knownCollabAgents := ∅ }

/-- Every known agent has the nickname and the role that were heard. -/
def HasHeard (s : ActorState) (heard : Heard) : Prop :=
  ∀ threadId entry, s.knownCollabAgents.lookup threadId = some entry →
    entry.threadId = threadId ∧ identityOf entry = heard threadId

/-- Of the agents known before, at most the status is another; but for the agents, nothing is. -/
def ChangesStatusOnly (s s' : ActorState) : Prop :=
  s' = { s with knownCollabAgents := s'.knownCollabAgents } ∧
    ∀ threadId entry, s.knownCollabAgents.lookup threadId = some entry →
      ∃ entry', s'.knownCollabAgents.lookup threadId = some entry' ∧
        entry'.threadId = entry.threadId ∧ identityOf entry' = identityOf entry

/-- Agents keep what was heard of them, and a status changes nothing else. -/
structure AgentsKept (s : ActorState) (events : List EventMsg) : Prop where
  heard : ∀ seen, seen <+: events → HasHeard (stateAfter s seen) (heardIn seen)
  status : ∀ before event, before ++ [event] <+: events → OnlyStatus event →
    ChangesStatusOnly (stateAfter s before) (stateAfter s (before ++ [event]))

/-- The condition on an event: its last report on an agent gives the nickname, unless none was
heard of the agent, in the event's own reports or before, and so for the role. -/
def TellsHeard (heard : Heard) (event : EventMsg) : Prop :=
  ∀ threadId report, lastReport threadId event = some report →
    identityOf report = heard.after event threadId

/-! ## One event -/

section Event

variable {event : EventMsg} {s : ActorState} {heard : Heard} {threadId : ThreadId}

/-- The edits of an event are its reports, put one after the other, and what it removes. -/
theorem agentEdits_event (event : EventMsg) :
    (actorStateUpdates event).flatMap agentEdits =
      ((agentReports event).map fun report => .put report.threadId report) ++
        (closedAgent event).toList.map .del := by
  cases event
  case collabAgentSpawnEnd event =>
    obtain ⟨_, newThreadId, _, _, _⟩ := event
    cases newThreadId <;> rfl
  case collabWaitingEnd event =>
    obtain ⟨callId, agentStatuses, statuses⟩ := event
    cases agentStatuses with
    | nil =>
      show (statuses.map _).flatMap agentEdits = (statuses.map _).map _ ++ []
      rw [List.append_nil, List.map_map, List.flatMap_map, List.map_eq_flatMap]
      rfl
    | cons entry entries => rfl
  all_goals rfl

/-- An event that removes an agent reports on none. -/
theorem agentReports_of_closed (h : closedAgent event = some threadId) :
    agentReports event = [] := by
  cases event <;> first | rfl | cases h

/-- Of the reports put, the last one on an agent is stored. -/
theorem lastWrite_reports (threadId : ThreadId) (reports : List CollabAgentStatusEntry) :
    lastWrite (Edit.writes threadId)
        (reports.map fun report => Edit.put report.threadId report) =
      ((reports.filter fun report => report.threadId = threadId).getLast?).map some := by
  induction reports using List.reverseRecOn with
  | nil => rfl
  | append_singleton reports report ih =>
    rw [List.map_append, lastWrite_append, ih, List.filter_append]
    by_cases hthread : report.threadId = threadId
    · simp [lastWrite, Edit.writes, hthread]
    · simp [lastWrite, Edit.writes, hthread]

/-- **An event** stores its last report on an agent, or removes it, or leaves it alone. -/
theorem lookup_event (s : ActorState) (event : EventMsg) (threadId : ThreadId) :
    (s.applyEventUpdates (actorStateUpdates event)).knownCollabAgents.lookup threadId =
      if closedAgent event = some threadId then none
      else (lastReport threadId event).or (s.knownCollabAgents.lookup threadId) := by
  rw [ActorState.applyEventUpdates_eq]
  dsimp only
  rw [lookup_foldl_apply, agentEdits_event, lastWrite_append, lastWrite_reports]
  unfold lastReport
  cases hclosed : closedAgent event with
  | none =>
    rw [if_neg nofun]
    show ((none : Option (Option CollabAgentStatusEntry)).or _).getD _ = _
    rw [Option.none_or]
    cases ((agentReports event).filter fun report => report.threadId = threadId).getLast? <;> rfl
  | some closed =>
    rw [agentReports_of_closed hclosed]
    by_cases hthread : closed = threadId
    · simp [lastWrite, Edit.writes, hthread]
    · simp [lastWrite, Edit.writes, hthread]

/-- Without a report on the agent, nothing new is heard of it. -/
theorem heard_of_no_report (hclosed : closedAgent event ≠ some threadId)
    (hreport : lastReport threadId event = none) : heard.after event threadId = heard threadId := by
  unfold Heard.after
  rw [if_neg hclosed, List.getLast?_eq_none_iff.mp hreport]
  rfl

/-- After an event, the agents have what was heard exactly when the event tells it. -/
theorem hasHeard_step (h : HasHeard s heard) :
    HasHeard (s.applyEventUpdates (actorStateUpdates event)) (heard.after event) ↔
      TellsHeard heard event := by
  unfold HasHeard TellsHeard
  refine forall_congr' fun threadId => ?_
  rw [lookup_event]
  by_cases hclosed : closedAgent event = some threadId
  · have hnone : lastReport threadId event = none := by
      unfold lastReport
      rw [agentReports_of_closed hclosed]
      rfl
    rw [if_pos hclosed, hnone]
    exact ⟨fun _ => nofun, fun _ => nofun⟩
  · rw [if_neg hclosed]
    cases hreport : lastReport threadId event with
    | none =>
      refine ⟨fun _ => nofun, fun _ entry hentry => ?_⟩
      rw [heard_of_no_report hclosed hreport]
      exact h threadId entry hentry
    | some report =>
      have hthread : report.threadId = threadId := by
        have hmem := List.mem_of_getLast? hreport
        simpa using (List.mem_filter.mp hmem).2
      simp [hthread]

/-- An event that gives no identity leaves what was heard as it is. -/
theorem heard_of_onlyStatus (h : OnlyStatus event) : heard.after event = heard := by
  funext threadId
  unfold Heard.after
  rw [if_neg fun hclosed => h.1 (agentReports_of_closed hclosed)]
  have hreports : ∀ report ∈ (agentReports event).filter (fun report => report.threadId = threadId),
      identityOf report = {} := fun report hmem => h.2 report (List.mem_filter.mp hmem).1
  generalize (agentReports event).filter (fun report => report.threadId = threadId) = reports
    at hreports
  induction reports with
  | nil => rfl
  | cons report reports ih =>
    have hhead : (heard threadId).hear report = heard threadId := by
      unfold AgentIdentity.hear
      rw [hreports report (List.mem_cons_self ..)]
      rfl
    rw [List.foldl_cons, hhead]
    exact ih fun report hmem => hreports report (List.mem_cons_of_mem _ hmem)

/-- An event that reports on agents writes nothing but the agents. -/
theorem reports_write_agents (h : agentReports event ≠ []) (s : ActorState) :
    let s' := s.applyEventUpdates (actorStateUpdates event)
    s' = { s with knownCollabAgents := s'.knownCollabAgents } := by
  have hwrites : ∀ update ∈ actorStateUpdates event,
      usageWrite update = none ∧ modeWrite update = none ∧ goalWrite update = none := by
    cases event
    case collabAgentSpawnEnd event =>
      obtain ⟨_, newThreadId, _, _, _⟩ := event
      cases newThreadId <;> simp [actorStateUpdates, usageWrite, modeWrite, goalWrite]
    case collabWaitingEnd event =>
      intro update hmem
      dsimp only [actorStateUpdates] at hmem
      split at hmem
      · cases List.mem_singleton.mp hmem
        exact ⟨rfl, rfl, rfl⟩
      · obtain ⟨_, -, rfl⟩ := List.mem_map.mp hmem
        exact ⟨rfl, rfl, rfl⟩
    case collabAgentInteractionEnd | collabResumeEnd =>
      simp [actorStateUpdates, usageWrite, modeWrite, goalWrite]
    all_goals exact absurd rfl h
  dsimp only
  rw [ActorState.applyEventUpdates_eq, foldl_write_of_none fun op hop => (hwrites op hop).1,
    foldl_write_of_none fun op hop => (hwrites op hop).2.1,
    foldl_write_of_none fun op hop => (hwrites op hop).2.2]

/-- A status changes nothing else, where the agents have what was heard before and after. -/
theorem changesStatusOnly_of_hasHeard (hevent : OnlyStatus event) (h : HasHeard s heard)
    (h' : HasHeard (s.applyEventUpdates (actorStateUpdates event)) heard) :
    ChangesStatusOnly s (s.applyEventUpdates (actorStateUpdates event)) := by
  refine ⟨reports_write_agents hevent.1 s, fun threadId entry hentry => ?_⟩
  have hlookup := lookup_event s event threadId
  rw [if_neg fun hclosed => hevent.1 (agentReports_of_closed hclosed), hentry] at hlookup
  obtain ⟨entry', hentry'⟩ : ∃ entry', (s.applyEventUpdates
      (actorStateUpdates event)).knownCollabAgents.lookup threadId = some entry' := by
    rw [hlookup]
    cases lastReport threadId event with
    | none => exact ⟨entry, rfl⟩
    | some report => exact ⟨report, rfl⟩
  obtain ⟨hthread, hidentity⟩ := h threadId entry hentry
  obtain ⟨hthread', hidentity'⟩ := h' threadId entry' hentry'
  exact ⟨entry', hentry', hthread'.trans hthread.symm, hidentity'.trans hidentity.symm⟩

end Event

/-! ## All events -/

/-- The events, as a transducer on the state. -/
def agentEvents : Transducer ActorState EventMsg Unit := fun event s =>
  ((), s.applyEventUpdates (actorStateUpdates event))

theorem stateAfter_append (s : ActorState) (before : List EventMsg) (event : EventMsg) :
    stateAfter s (before ++ [event]) =
      (stateAfter s before).applyEventUpdates (actorStateUpdates event) := by
  unfold stateAfter
  rw [List.foldl_append]
  rfl

theorem heardIn_append (before : List EventMsg) (event : EventMsg) :
    heardIn (before ++ [event]) = (heardIn before).after event := by
  unfold heardIn
  rw [List.foldl_append]
  rfl

/-- **Known agents** keep the nickname and the role they were given, along every sequence of
events, exactly when every event that reports on an agent gives what was heard of it. -/
theorem knownAgents_kept_iff (s : ActorState) (events : List EventMsg) :
    AgentsKept s events ↔
      ∀ before event, before ++ [event] <+: events → TellsHeard (heardIn before) event := by
  have hempty : HasHeard (stateAfter s []) (heardIn []) := by
    intro threadId entry hentry
    cases hentry
  have htracks : (∀ seen, seen <+: events → HasHeard (stateAfter s seen) (heardIn seen)) ↔
      ∀ before event, before ++ [event] <+: events → TellsHeard (heardIn before) event :=
    agentEvents.final_tracks_iff (fun _ _ _ h => hasHeard_step h) hempty events
  refine ⟨fun h => htracks.mp h.heard, fun h => ⟨htracks.mpr h, ?_⟩⟩
  intro before event hbefore honly
  have hheard := htracks.mpr h before ((List.prefix_append before [event]).trans hbefore)
  have hheard' := htracks.mpr h (before ++ [event]) hbefore
  rw [stateAfter_append, heardIn_append, heard_of_onlyStatus honly] at hheard'
  rw [stateAfter_append]
  exact changesStatusOnly_of_hasHeard honly hheard hheard'

/-- A worker is spawned under a name, and then waited for with its status alone. -/
def spawnedAndWaited : List EventMsg :=
  [.collabAgentSpawnEnd
     { callId := "spawn", newThreadId := some "agent", newAgentNickname := some "Worker"
       newAgentRole := some "tester", status := .running },
   .collabWaitingEnd
     { callId := "wait", agentStatuses := [], statuses := [("agent", .completed none)] }]

/-- **A nameless agent.** The status that was waited for takes name and role away. -/
theorem waitedAgent_nameless :
    ¬ AgentsKept {} spawnedAndWaited ∧
      (stateAfter {} spawnedAndWaited).knownCollabAgents.lookup "agent" =
        some { threadId := "agent", agentNickname := none, agentRole := none
               status := .completed none } := by
  refine ⟨fun h => ?_, by decide⟩
  have hheard := h.heard spawnedAndWaited (List.prefix_refl _) "agent" _ rfl
  exact absurd hheard.2 (by decide)

end CodexAcp.Thread
