import CodexAcp.Boundary.Permission
import CodexAcp.Boundary.ToolCall

/-!
# Routing Codex events

Three routings of the same event alphabet. A live event is planned for the
actor (`planActorEvent`: what it changes in the actor's state, and whether it
asks the user, may be approved automatically, or goes to its submission) and
then routed inside its submission (`routeLiveEvent`). A recorded event is
routed for replay (`routeReplayEventMsg`). The live and the replayed plan share
`actorStateUpdates`, the fold of an event into the actor's state, and differ in
what they do with a pending user-input request.

Of what an event is rendered as, the plans keep what `BridgeEffect` keeps.
-/

namespace CodexAcp.Boundary

open CodexAcp.Protocol

/-! ## Types -/

structure ActorCollabAgentUpdate where
  threadId : ThreadId
  agentNickname : Option String
  agentRole : Option String
  status : AgentStatus
  deriving DecidableEq, Repr

inductive ActorStateUpdate where
  | latestUsage (info : Option TokenUsageInfo) (rateLimits : Option RateLimitSnapshot)
  | collaborationMode (kind : ModeKind)
  | rememberCollabAgent (update : ActorCollabAgentUpdate)
  | rememberCollabAgentEntries (entries : List CollabAgentStatusEntry)
  | removeCollabAgent (threadId : ThreadId)
  | goalSnapshot (goal : ThreadGoal)
  deriving DecidableEq, Repr

def ActorStateUpdate.goal? : ActorStateUpdate → Option ThreadGoal
  | goalSnapshot goal => some goal
  | _ => none

inductive ActorPendingUserInputClear where
  | none
  | submission
  deriving DecidableEq, Repr

inductive ActorAutoApproval where
  | exec (id turnId : String)
  | patch (id : String)
  deriving DecidableEq, Repr

def ActorAutoApproval.intoOp : ActorAutoApproval → Op
  | exec id turnId => .execApproval id (some turnId) .approved
  | patch id => .patchApproval id .approved

inductive ActorEventAction where
  | registerPendingUserInput (event : RequestUserInputEvent)
  | routeToSubmission (clearPendingUserInput : ActorPendingUserInputClear)
      (fullAccessAutoApproval : Option ActorAutoApproval)
  deriving DecidableEq, Repr

structure ActorEventPlan where
  stateUpdates : List ActorStateUpdate
  goalSnapshot : Option ThreadGoal
  action : ActorEventAction
  deriving DecidableEq, Repr

/-! ## The actor's plan of a live event -/

/-- What an event changes in the actor's state. -/
def actorStateUpdates : EventMsg → List ActorStateUpdate
  | .tokenCount event => [.latestUsage event.info event.rateLimits]
  | .turnStarted event => [.collaborationMode event.collaborationModeKind]
  | .threadGoalUpdated event => [.goalSnapshot event.goal]
  | .collabAgentSpawnEnd event =>
    match event.newThreadId with
    | some threadId =>
      [.rememberCollabAgent
        { threadId := threadId
          agentNickname := event.newAgentNickname
          agentRole := event.newAgentRole
          status := event.status }]
    | none => []
  | .collabAgentInteractionEnd event | .collabResumeEnd event =>
    [.rememberCollabAgent
      { threadId := event.receiverThreadId
        agentNickname := event.receiverAgentNickname
        agentRole := event.receiverAgentRole
        status := event.status }]
  | .collabWaitingEnd event =>
    if !event.agentStatuses.isEmpty then [.rememberCollabAgentEntries event.agentStatuses]
    else event.statuses.map fun (threadId, status) =>
      .rememberCollabAgent
        { threadId := threadId, agentNickname := none, agentRole := none, status := status }
  | .collabCloseEnd event => [.removeCollabAgent event.receiverThreadId]
  | _ => []

def routeActorEvent : EventMsg → ActorEventAction
  | .requestUserInput event => .registerPendingUserInput event
  | .execApprovalRequest event =>
    .routeToSubmission .none (some (.exec (event.approvalId.getD event.callId) event.turnId))
  | .applyPatchApprovalRequest event =>
    .routeToSubmission .none (some (.patch event.callId))
  | .error _ | .turnComplete _ | .turnAborted _ | .shutdownComplete =>
    .routeToSubmission .submission none
  | _ => .routeToSubmission .none none

def planActorEvent (event : EventMsg) : ActorEventPlan :=
  let stateUpdates := actorStateUpdates event
  { stateUpdates := stateUpdates
    goalSnapshot := stateUpdates.findSome? ActorStateUpdate.goal?
    action := routeActorEvent event }

/-! ## The submission's route of a live event -/

inductive LivePermissionEvent where
  | execApprovalRequest (event : ExecApprovalRequestEvent)
  | requestPermissions (event : RequestPermissionsEvent)
  | elicitationRequest (event : ElicitationRequestEvent)
  | applyPatchApprovalRequest (event : ApplyPatchApprovalRequestEvent)

inductive LiveExecEvent where
  | commandBegin (event : ExecCommandBeginEvent)
  | outputDelta (event : ExecCommandOutputDeltaEvent)
  | commandEnd (event : ExecCommandEndEvent)
  | terminalInteraction (event : TerminalInteractionEvent)

/-- A piece of the agent's reasoning, summarised or raw. -/
structure LiveReasoningContentDeltaEvent where
  threadId : String
  turnId : String
  itemId : String
  index : Int
  delta : String
  deriving DecidableEq, Repr

inductive LiveForwardEvent where
  | effect (effect : BridgeEffect)
  | agentMessageContentDelta (event : AgentMessageContentDeltaEvent)
  | reasoningContentDelta (event : LiveReasoningContentDeltaEvent)
  | agentReasoningSectionBreak (event : AgentReasoningSectionBreakEvent)
  | agentMessage (event : AgentMessageEvent)
  | agentReasoning (event : AgentReasoningEvent)
  | webSearchBegin (event : WebSearchBeginEvent)
  | webSearchEnd (event : WebSearchEndEvent)
  | exec (event : LiveExecEvent)
  | turnComplete (event : TurnCompleteEvent)
  | error (event : ErrorEvent)
  | turnAborted (event : TurnAbortedEvent)
  | shutdownComplete
  | guardianAssessment

inductive LiveEventRoute where
  | forward (event : LiveForwardEvent)
  | requestPermission (event : LivePermissionEvent)
  | ignore (reason : IgnoredCodexEventReason)

/-- Why a token count cannot be shown as a usage update, if it cannot. -/
def usageIgnoredReason (event : TokenCountEvent) : Option IgnoredCodexEventReason :=
  match event.info with
  | none => some .missingUsageInfo
  | some info =>
    match info.modelContextWindow with
    | none => some .missingUsageContextWindow
    | some contextWindow => if contextWindow < 0 then some .invalidUsageContextWindow else none

def routeLiveEvent : EventMsg → LiveEventRoute
  | .error event => .forward (.error event)
  | .realtimeConversationStarted | .realtimeConversationRealtime | .realtimeConversationClosed
  | .realtimeConversationSdp | .realtimeConversationListVoicesResponse | .subAgentActivity
  | .hookStarted | .hookCompleted => .ignore .unsupportedByAcp
  | .modelReroute | .modelVerification | .safetyBuffering | .turnModerationMetadata
  | .mcpStartupUpdate | .mcpStartupComplete | .deprecationNotice | .streamError
  | .rawResponseCompleted => .ignore .diagnosticOnly
  | .environmentConnected | .environmentDisconnected | .threadSettingsApplied | .turnStarted _
  | .enteredReviewMode => .ignore .stateOnly
  | .turnComplete event => .forward (.turnComplete event)
  | .tokenCount event =>
    match usageIgnoredReason event with
    | some reason => .ignore reason
    | none => .forward (.effect .rendered)
  | .agentMessage event => .forward (.agentMessage event)
  | .userMessage => .ignore .alreadyRenderedByClientInput
  | .agentReasoning event => .forward (.agentReasoning event)
  | .agentReasoningRawContent _ => .ignore .alreadyRenderedByAnotherEvent
  | .agentReasoningSectionBreak event => .forward (.agentReasoningSectionBreak event)
  | .sessionConfigured | .itemStarted | .itemCompleted => .ignore .lifecycleOnly
  | .webSearchBegin event => .forward (.webSearchBegin event)
  | .webSearchEnd event => .forward (.webSearchEnd event)
  | .execCommandBegin event => .forward (.exec (.commandBegin event))
  | .execCommandOutputDelta event => .forward (.exec (.outputDelta event))
  | .terminalInteraction event => .forward (.exec (.terminalInteraction event))
  | .execCommandEnd event => .forward (.exec (.commandEnd event))
  | .execApprovalRequest event => .requestPermission (.execApprovalRequest event)
  | .requestPermissions event => .requestPermission (.requestPermissions event)
  | .requestUserInput _ => .ignore .handledByActor
  | .elicitationRequest event => .requestPermission (.elicitationRequest event)
  | .applyPatchApprovalRequest event => .requestPermission (.applyPatchApprovalRequest event)
  | .guardianAssessment => .forward .guardianAssessment
  | .patchApplyUpdated event =>
    if event.changes.isEmpty then .ignore .emptyToolCallUpdate else .forward (.effect .rendered)
  | .turnDiff | .rawResponseItem => .ignore .handledByResponseItem
  -- An abort that names no turn is not the abort of this submission's turn.
  | .turnAborted event =>
    match event.turnId with
    | some _ => .forward (.turnAborted event)
    | none => .ignore .lifecycleOnly
  | .shutdownComplete => .forward .shutdownComplete
  | .exitedReviewMode event =>
    match reviewModeExitEffect event with
    | .ok effect => .forward (.effect effect)
    | .error reason => .ignore reason
  | .agentMessageContentDelta event => .forward (.agentMessageContentDelta event)
  | .planDelta => .ignore .supersededBySnapshot
  | .reasoningContentDelta event => .forward (.reasoningContentDelta
      { threadId := event.threadId, turnId := event.turnId, itemId := event.itemId
        index := event.summaryIndex, delta := event.delta })
  | .reasoningRawContentDelta event => .forward (.reasoningContentDelta
      { threadId := event.threadId, turnId := event.turnId, itemId := event.itemId
        index := event.contentIndex, delta := event.delta })
  | .threadGoalUpdated event => .forward (.effect (threadGoalUpdated event))
  | .warning event | .guardianWarning event => .forward (.effect (agentWarningEffect event))
  | .contextCompacted => .forward (.effect contextCompacted)
  | .threadRolledBack event => .forward (.effect (threadRolledBack event))
  | .mcpToolCallBegin | .mcpToolCallEnd | .imageGenerationBegin | .imageGenerationEnd _
  | .viewImageToolCall | .dynamicToolCallRequest | .dynamicToolCallResponse | .patchApplyBegin
  | .patchApplyEnd | .planUpdate | .collabAgentSpawnBegin | .collabAgentSpawnEnd _
  | .collabAgentInteractionBegin | .collabAgentInteractionEnd _ | .collabWaitingBegin
  | .collabWaitingEnd _ | .collabCloseBegin | .collabCloseEnd _ | .collabResumeBegin
  | .collabResumeEnd _ => .forward (.effect .rendered)

/-- The events that come when a web search is over, which does not tell so itself. -/
def completesActiveWebSearchBefore : EventMsg → Bool
  | .error _ | .streamError | .webSearchBegin _ | .userMessage | .execApprovalRequest _
  | .execCommandBegin _ | .execCommandOutputDelta _ | .execCommandEnd _ | .mcpToolCallBegin
  | .mcpToolCallEnd | .applyPatchApprovalRequest _ | .patchApplyBegin | .patchApplyEnd
  | .turnStarted _ | .turnComplete _ | .turnDiff | .turnAborted _ | .enteredReviewMode
  | .exitedReviewMode _ | .shutdownComplete => true
  | _ => false

/-! ## The plan of a replayed event -/

inductive ReplayEventAction where
  | effect (effect : BridgeEffect)
  | registerPendingUserInput (turnId : String) (event : RequestUserInputEvent)
  | clearPendingUserInputForSubmission (turnId : String)
  | clearPendingUserInput
  | ignore

structure ReplayEventPlan where
  stateUpdates : List ActorStateUpdate
  action : ReplayEventAction

def routeReplayEventAction : EventMsg → ReplayEventAction
  | .userMessage | .planUpdate => .effect .rendered
  | .imageGenerationEnd event => .effect (.toolCall (imageGenerationReplayToolCall event))
  | .collabAgentSpawnEnd event => .effect (.toolCall (collabSpawnReplayToolCall event))
  | .collabAgentInteractionEnd event =>
    .effect (.toolCall (collabInteractionReplayToolCall event))
  | .collabWaitingEnd event => .effect (.toolCall (collabWaitingReplayToolCall event))
  | .collabCloseEnd event => .effect (.toolCall (collabCloseReplayToolCall event))
  | .collabResumeEnd event => .effect (.toolCall (collabResumeReplayToolCall event))
  | .agentMessage event => .effect (agentTextEffect event.message)
  | .agentReasoning event => .effect (agentThoughtEffect event.text)
  | .agentReasoningRawContent event => .effect (agentThoughtEffect event.text)
  | .threadGoalUpdated event => .effect (threadGoalUpdated event)
  | .requestUserInput event => .registerPendingUserInput event.turnId event
  | .turnComplete event => .clearPendingUserInputForSubmission event.turnId
  | .turnAborted event =>
    match event.turnId with
    | some turnId => .clearPendingUserInputForSubmission turnId
    | none => .ignore
  | .shutdownComplete | .error _ => .clearPendingUserInput
  | _ => .ignore

def routeReplayEventMsg (event : EventMsg) : ReplayEventPlan :=
  { stateUpdates := actorStateUpdates event, action := routeReplayEventAction event }

/-! ## The route of a replayed response item -/

inductive ReplayToolCallStatus where
  | completed
  | failed
  deriving DecidableEq, Repr

inductive ReplayResponseItemRoute where
  | shellFunctionCall (callId name : String)
  | genericFunctionCall (callId name : String)
  | functionCallOutput (callId : String)
  | localShellCall (callId : String) (status : ReplayToolCallStatus)
  | applyPatchCustomToolCall (callId : String)
  | genericCustomToolCall (callId name : String)
  | customToolCallOutput (callId : String)
  | webSearchCall (id : Option String) (action : Option WebSearchAction)
  | ignore (reason : IgnoredCodexEventReason)
  deriving DecidableEq, Repr

def isReplayShellTool (name : String) : Bool :=
  ["shell", "container.exec", "shell_command", "exec_command"].contains name

def routeReplayResponseItem : ResponseItem → ReplayResponseItemRoute
  | .functionCall name callId =>
    if isReplayShellTool name then .shellFunctionCall callId name
    else .genericFunctionCall callId name
  | .functionCallOutput callId => .functionCallOutput callId
  | .localShellCall (some callId) status =>
    .localShellCall callId
      (match status with
      | .completed => .completed
      | .inProgress | .incomplete => .failed)
  | .localShellCall none _ => .ignore .missingToolCallId
  | .customToolCall name callId =>
    if name = "apply_patch" then .applyPatchCustomToolCall callId
    else .genericCustomToolCall callId name
  | .customToolCallOutput callId => .customToolCallOutput callId
  | .webSearchCall id action => .webSearchCall id action
  | .message | .agentMessage | .reasoning | .imageGenerationCall =>
    .ignore .alreadyRenderedByAnotherEvent
  | .compaction | .contextCompaction | .compactionTrigger | .additionalTools => .ignore .stateOnly
  | .toolSearchCall | .toolSearchOutput | .other => .ignore .unsupportedByAcp

/-- An item of a recorded thread; what is neither an event nor a response item only
restores Codex's own state. -/
inductive RolloutItem where
  | eventMsg (msg : EventMsg)
  | responseItem (item : ResponseItem)
  | stateOnly

end CodexAcp.Boundary
