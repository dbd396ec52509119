import CodexAcp.Lib.Journal
import CodexAcp.Boundary.Mapper

/-!
# The actor's session state

What a session actor remembers between messages and events: the last usage,
the collaboration mode, the review target, the agents it knows, the question
it waits for, the goal, and the configuration options it last sent. All of it
is folded from events by `applyEventUpdates` or written by a request.

The updates of events are writes to three registers (usage, collaboration mode,
goal) and edits of one dictionary (the agents), so a state folded from them is known
component by component:

> `applyEventUpdates_eq`: each register gets the last value written to it, the
> agents are edited in order, and the rest stays.
-/

namespace CodexAcp.Thread

open CodexAcp.Lib CodexAcp.Protocol CodexAcp.Boundary

structure UsageSnapshot where
  info : Option TokenUsageInfo := none
  rateLimits : Option RateLimitSnapshot := none
  deriving DecidableEq, Repr

def PendingUserInputRequest.fromEvent (submissionId : String) (event : RequestUserInputEvent) :
    PendingUserInputRequest :=
  { submissionId := submissionId, callId := event.callId, turnId := event.turnId
    questions := event.questions }

structure ActorState where
  lastSentConfigOptions : Option (List SessionConfigOption) := none
  activeCollaborationModeKind : Option ModeKind := none
  reviewBaseBranch : Option String := none
  knownCollabAgents : Dict ThreadId CollabAgentStatusEntry := ∅
  pendingUserInput : Option PendingUserInputRequest := none
  latestUsage : UsageSnapshot := {}
  currentGoal : Option ThreadGoal := none

namespace ActorState

def updateGoal (s : ActorState) (goal : Option ThreadGoal) : Bool × ActorState :=
  if s.currentGoal = goal then (false, s) else (true, { s with currentGoal := goal })

def isCurrentGoal (s : ActorState) (goal : ThreadGoal) : Bool := s.currentGoal = some goal

def collaborationModeKindOrDefault (s : ActorState) : ModeKind :=
  s.activeCollaborationModeKind.getD .default

def rememberCollabAgentEntry (s : ActorState) (entry : CollabAgentStatusEntry) : ActorState :=
  { s with knownCollabAgents := s.knownCollabAgents.insert entry.threadId entry }

def rememberCollabAgent (s : ActorState) (threadId : ThreadId)
    (agentNickname agentRole : Option String) (status : AgentStatus) : ActorState :=
  s.rememberCollabAgentEntry
    { threadId := threadId, agentNickname := agentNickname, agentRole := agentRole
      status := status }

def removeCollabAgent (s : ActorState) (threadId : ThreadId) : ActorState :=
  { s with knownCollabAgents := s.knownCollabAgents.erase threadId }

def setPendingUserInput (s : ActorState) (pendingRequest : PendingUserInputRequest) :
    ActorState :=
  { s with pendingUserInput := some pendingRequest }

def pendingSubmissionId (s : ActorState) : Option String :=
  s.pendingUserInput.map (·.submissionId)

def clearPendingUserInput (s : ActorState) : ActorState := { s with pendingUserInput := none }

def clearPendingUserInputForSubmission (s : ActorState) (submissionId : String) : ActorState :=
  if s.pendingSubmissionId = some submissionId then s.clearPendingUserInput else s

def applyEventUpdate (s : ActorState) : ActorStateUpdate → ActorState
  | .latestUsage info rateLimits => { s with latestUsage := ⟨info, rateLimits⟩ }
  | .collaborationMode kind => { s with activeCollaborationModeKind := some kind }
  | .rememberCollabAgent update =>
    s.rememberCollabAgent update.threadId update.agentNickname update.agentRole update.status
  | .rememberCollabAgentEntries entries => entries.foldl rememberCollabAgentEntry s
  | .removeCollabAgent threadId => s.removeCollabAgent threadId
  | .goalSnapshot goal => (s.updateGoal (some goal)).2

def applyEventUpdates (s : ActorState) (updates : List ActorStateUpdate) : ActorState :=
  updates.foldl applyEventUpdate s

end ActorState

/-! ## What the updates write -/

def usageWrite : ActorStateUpdate → Option UsageSnapshot
  | .latestUsage info rateLimits => some ⟨info, rateLimits⟩
  | _ => none

def modeWrite : ActorStateUpdate → Option (Option ModeKind)
  | .collaborationMode kind => some (some kind)
  | _ => none

def goalWrite : ActorStateUpdate → Option (Option ThreadGoal)
  | .goalSnapshot goal => some (some goal)
  | _ => none

def agentEdits : ActorStateUpdate → List (Edit ThreadId CollabAgentStatusEntry)
  | .rememberCollabAgent update =>
    [.put update.threadId
      { threadId := update.threadId, agentNickname := update.agentNickname
        agentRole := update.agentRole, status := update.status }]
  | .rememberCollabAgentEntries entries => entries.map fun entry => .put entry.threadId entry
  | .removeCollabAgent threadId => [.del threadId]
  | _ => []

namespace ActorState

theorem foldl_rememberCollabAgentEntry (entries : List CollabAgentStatusEntry) (s : ActorState) :
    entries.foldl rememberCollabAgentEntry s =
      { s with
        knownCollabAgents :=
          (entries.map fun entry => .put entry.threadId entry).foldl Edit.apply
            s.knownCollabAgents } := by
  induction entries generalizing s with
  | nil => rfl
  | cons entry entries ih =>
    rw [List.foldl_cons, ih]
    rfl

/-- **One update** writes its register, or edits the agents. -/
theorem applyEventUpdate_eq (s : ActorState) (update : ActorStateUpdate) :
    s.applyEventUpdate update =
      { s with
        latestUsage := write usageWrite s.latestUsage update
        activeCollaborationModeKind := write modeWrite s.activeCollaborationModeKind update
        currentGoal := write goalWrite s.currentGoal update
        knownCollabAgents := (agentEdits update).foldl Edit.apply s.knownCollabAgents } := by
  cases update with
  | goalSnapshot goal =>
    show (s.updateGoal (some goal)).2 = { s with currentGoal := some goal }
    unfold updateGoal
    split
    next h => rw [← h]
    next => rfl
  | rememberCollabAgentEntries entries => exact foldl_rememberCollabAgentEntry entries s
  | latestUsage | collaborationMode | rememberCollabAgent | removeCollabAgent => rfl

/-- **Updates**, component by component. -/
theorem applyEventUpdates_eq (s : ActorState) (updates : List ActorStateUpdate) :
    s.applyEventUpdates updates =
      { s with
        latestUsage := updates.foldl (write usageWrite) s.latestUsage
        activeCollaborationModeKind :=
          updates.foldl (write modeWrite) s.activeCollaborationModeKind
        currentGoal := updates.foldl (write goalWrite) s.currentGoal
        knownCollabAgents :=
          (updates.flatMap agentEdits).foldl Edit.apply s.knownCollabAgents } := by
  unfold applyEventUpdates
  induction updates generalizing s with
  | nil => rfl
  | cons update updates ih =>
    rw [List.foldl_cons, ih, applyEventUpdate_eq, List.flatMap_cons, List.foldl_append]
    rfl

/-- An event update writes usage, mode, agents and goal; the question the
session waits for, the review target and the options last sent stay. -/
def SameRequests (s s' : ActorState) : Prop :=
  s'.pendingUserInput = s.pendingUserInput ∧ s'.reviewBaseBranch = s.reviewBaseBranch ∧
    s'.lastSentConfigOptions = s.lastSentConfigOptions

theorem applyEventUpdates_sameRequests (s : ActorState) (updates : List ActorStateUpdate) :
    SameRequests s (s.applyEventUpdates updates) := by
  rw [applyEventUpdates_eq]
  exact ⟨rfl, rfl, rfl⟩

end ActorState

/-! ## Goals -/

/-- The goal an event reports. -/
def reportedGoal : EventMsg → Option ThreadGoal
  | .threadGoalUpdated event => some event.goal
  | _ => none

/-- The updates of an event write the goal it reports, and no other. -/
theorem actorStateUpdates_goal (msg : EventMsg) (goal : Option ThreadGoal) :
    (actorStateUpdates msg).foldl (write goalWrite) goal = (reportedGoal msg).or goal := by
  cases msg
  case threadGoalUpdated event => rfl
  case collabAgentSpawnEnd event =>
    dsimp only [actorStateUpdates]
    split <;> rfl
  case collabWaitingEnd event =>
    dsimp only [actorStateUpdates]
    split
    · rfl
    · refine foldl_write_of_none (fun op hop => ?_) goal
      obtain ⟨status, _, rfl⟩ := List.mem_map.mp hop
      rfl
  all_goals rfl

end CodexAcp.Thread
