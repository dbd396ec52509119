import CodexAcp.Protocol.Op

/-!
# What Codex reports

The event messages of a Codex thread. Every constructor of the source's
`EventMsg` is here, so that the routing functions are total on the same
alphabet; a payload is kept where a modelled function reads it. An event
carries the id of the submission it belongs to.
-/

namespace CodexAcp.Protocol

abbrev ThreadId := String

/-! ## Payloads

An event that is the raw value of a tool call is kept with its `serde_json::json!`. -/

structure TokenUsage where
  totalTokens : Int
  tokensInContextWindow : Int
  deriving DecidableEq, Repr

structure TokenUsageInfo where
  totalTokenUsage : TokenUsage
  lastTokenUsage : TokenUsage
  modelContextWindow : Option Int
  deriving DecidableEq, Repr

structure RateLimitWindow where
  usedPercent : Int
  windowMinutes : Option Int
  deriving DecidableEq, Repr

structure RateLimitSnapshot where
  primary : Option RateLimitWindow
  secondary : Option RateLimitWindow
  deriving DecidableEq, Repr

structure TokenCountEvent where
  info : Option TokenUsageInfo
  rateLimits : Option RateLimitSnapshot
  deriving DecidableEq, Repr

structure TurnStartedEvent where
  turnId : String
  collaborationModeKind : ModeKind
  deriving DecidableEq, Repr

structure TurnCompleteEvent where
  turnId : String
  deriving DecidableEq, Repr

structure TurnAbortedEvent where
  turnId : Option String
  deriving DecidableEq, Repr

structure ErrorEvent where
  message : String
  codexErrorInfo : Option String
  deriving DecidableEq, Repr

inductive ThreadGoalStatus where
  | active
  | paused
  | blocked
  | usageLimited
  | budgetLimited
  | complete
  deriving DecidableEq, Repr

structure ThreadGoal where
  threadId : ThreadId
  objective : String
  status : ThreadGoalStatus
  tokenBudget : Option Int
  tokensUsed : Int
  timeUsedSeconds : Int
  createdAt : Int
  updatedAt : Int
  deriving DecidableEq, Repr

structure ThreadGoalUpdatedEvent where
  goal : ThreadGoal
  deriving DecidableEq, Repr

inductive AgentStatus where
  | pendingInit
  | running
  | interrupted
  | completed (lastMessage : Option String)
  | errored (message : String)
  | shutdown
  | notFound
  deriving DecidableEq, Repr

structure CollabAgentStatusEntry where
  threadId : ThreadId
  agentNickname : Option String
  agentRole : Option String
  status : AgentStatus
  deriving DecidableEq, Repr

structure CollabAgentSpawnEndEvent where
  callId : String
  newThreadId : Option ThreadId
  newAgentNickname : Option String
  newAgentRole : Option String
  status : AgentStatus
  deriving DecidableEq, Repr

/-- The payload of the interaction, resume and close end events. -/
structure CollabReceiverEvent where
  callId : String
  receiverThreadId : ThreadId
  receiverAgentNickname : Option String
  receiverAgentRole : Option String
  status : AgentStatus
  json : Json := .null

structure CollabWaitingEndEvent where
  callId : String
  agentStatuses : List CollabAgentStatusEntry
  statuses : List (ThreadId × AgentStatus)
  json : Json := .null

structure PatchApplyUpdatedEvent where
  changes : List String
  deriving DecidableEq, Repr

/-- What a review found; its findings are kept as Codex prints them, if there are any. -/
structure ReviewOutputEvent where
  /-- `format_review_findings_block`. -/
  findings : Option String
  overallExplanation : String
  deriving DecidableEq, Repr

structure ExitedReviewModeEvent where
  reviewOutput : Option ReviewOutputEvent
  deriving DecidableEq, Repr

structure WarningEvent where
  message : String
  deriving DecidableEq, Repr

structure ThreadRolledBackEvent where
  numTurns : Nat
  deriving DecidableEq, Repr

/-! ## What the agent says and thinks -/

inductive MessagePhase where
  | commentary
  | finalAnswer
  deriving DecidableEq, Repr

structure AgentMessageEvent where
  message : String
  phase : Option MessagePhase
  deriving DecidableEq, Repr

structure AgentMessageContentDeltaEvent where
  threadId : String
  turnId : String
  itemId : String
  delta : String
  deriving DecidableEq, Repr

structure AgentReasoningEvent where
  text : String
  deriving DecidableEq, Repr

structure AgentReasoningRawContentEvent where
  text : String
  deriving DecidableEq, Repr

structure AgentReasoningSectionBreakEvent where
  itemId : String
  summaryIndex : Int
  deriving DecidableEq, Repr

structure ReasoningContentDeltaEvent where
  threadId : String
  turnId : String
  itemId : String
  delta : String
  summaryIndex : Int
  deriving DecidableEq, Repr

structure ReasoningRawContentDeltaEvent where
  threadId : String
  turnId : String
  itemId : String
  delta : String
  contentIndex : Int
  deriving DecidableEq, Repr

/-! ## Running commands and tools -/

/-- What Codex makes of a piece of a command line. -/
inductive ParsedCommand where
  | read (cmd name path : String)
  | listFiles (cmd : String) (path : Option String)
  | search (cmd : String) (query path : Option String)
  | unknown (cmd : String)
  deriving DecidableEq, Repr

structure ExecCommandBeginEvent where
  callId : String
  cwd : String
  parsedCmd : List ParsedCommand
  json : Json := .null

structure ExecCommandOutputDeltaEvent where
  callId : String
  chunk : List UInt8
  deriving DecidableEq, Repr

structure TerminalInteractionEvent where
  callId : String
  stdin : String
  deriving DecidableEq, Repr

inductive ExecCommandStatus where
  | completed
  | failed
  | declined
  deriving DecidableEq, Repr

structure ExecCommandEndEvent where
  callId : String
  exitCode : Int
  stdout : String := ""
  stderr : String := ""
  aggregatedOutput : String
  formattedOutput : String
  status : ExecCommandStatus
  /-- The members of `serde_json::json!` of the event that are no output. -/
  members : List (String × Json) := []

structure WebSearchBeginEvent where
  callId : String
  deriving DecidableEq, Repr

structure WebSearchEndEvent where
  callId : String
  deriving DecidableEq, Repr

structure ImageGenerationEndEvent where
  callId : String
  status : String
  deriving DecidableEq, Repr

/-! ## Requests to the user -/

structure NetworkApprovalContext where
  host : String
  protocol : String
  deriving DecidableEq, Repr

/-- The additional permissions of a command. -/
structure AdditionalPermissionProfile where
  network : Option NetworkPermissions
  fileSystem : Option (List FileSystemEntry)
  deriving DecidableEq, Repr

/-- A request to approve a command; `effectiveAvailableDecisions` is the list
of decisions the event offers, or Codex's default list when it offers none. -/
structure ExecApprovalRequestEvent where
  callId : String
  approvalId : Option String
  turnId : String
  cwd : String
  parsedCmd : List ParsedCommand
  networkApprovalContext : Option NetworkApprovalContext
  additionalPermissions : Option AdditionalPermissionProfile
  effectiveAvailableDecisions : List ReviewDecision
  deriving DecidableEq, Repr

structure ApplyPatchApprovalRequestEvent where
  callId : String
  turnId : String
  deriving DecidableEq, Repr

structure RequestPermissionsEvent where
  callId : String
  turnId : String
  permissions : RequestPermissionProfile
  deriving DecidableEq, Repr

inductive ElicitationRequest where
  | form (metadata : Option Json) (message : String)
  | openAiForm (metadata : Option Json) (message : String)
  | url (metadata : Option Json) (message : String)

structure ElicitationRequestEvent where
  serverName : String
  id : RequestId
  request : ElicitationRequest

structure RequestUserInputQuestionOption where
  label : String
  description : String
  deriving DecidableEq, Repr

structure RequestUserInputQuestion where
  id : String
  header : String
  question : String
  isOther : Bool
  isSecret : Bool
  options : Option (List RequestUserInputQuestionOption)
  deriving DecidableEq, Repr

structure RequestUserInputEvent where
  callId : String
  turnId : String
  questions : List RequestUserInputQuestion
  deriving DecidableEq, Repr

/-! ## Event messages -/

inductive EventMsg where
  | requestUserInput (event : RequestUserInputEvent)
  | execApprovalRequest (event : ExecApprovalRequestEvent)
  | applyPatchApprovalRequest (event : ApplyPatchApprovalRequestEvent)
  | error (event : ErrorEvent)
  | turnComplete (event : TurnCompleteEvent)
  | turnAborted (event : TurnAbortedEvent)
  | shutdownComplete
  | warning (event : WarningEvent)
  | guardianWarning (event : WarningEvent)
  | realtimeConversationStarted
  | realtimeConversationRealtime
  | realtimeConversationClosed
  | realtimeConversationSdp
  | modelReroute
  | modelVerification
  | environmentConnected
  | environmentDisconnected
  | turnModerationMetadata
  | safetyBuffering
  | contextCompacted
  | threadRolledBack (event : ThreadRolledBackEvent)
  | threadSettingsApplied
  | turnStarted (event : TurnStartedEvent)
  | tokenCount (event : TokenCountEvent)
  | agentMessage (event : AgentMessageEvent)
  | userMessage
  | agentReasoning (event : AgentReasoningEvent)
  | agentReasoningRawContent (event : AgentReasoningRawContentEvent)
  | agentReasoningSectionBreak (event : AgentReasoningSectionBreakEvent)
  | sessionConfigured
  | threadGoalUpdated (event : ThreadGoalUpdatedEvent)
  | mcpStartupUpdate
  | mcpStartupComplete
  | mcpToolCallBegin
  | mcpToolCallEnd
  | webSearchBegin (event : WebSearchBeginEvent)
  | webSearchEnd (event : WebSearchEndEvent)
  | imageGenerationBegin
  | imageGenerationEnd (event : ImageGenerationEndEvent)
  | execCommandBegin (event : ExecCommandBeginEvent)
  | execCommandOutputDelta (event : ExecCommandOutputDeltaEvent)
  | terminalInteraction (event : TerminalInteractionEvent)
  | execCommandEnd (event : ExecCommandEndEvent)
  | viewImageToolCall
  | requestPermissions (event : RequestPermissionsEvent)
  | dynamicToolCallRequest
  | dynamicToolCallResponse
  | elicitationRequest (event : ElicitationRequestEvent)
  | guardianAssessment
  | deprecationNotice
  | streamError
  | patchApplyBegin
  | patchApplyUpdated (event : PatchApplyUpdatedEvent)
  | patchApplyEnd
  | turnDiff
  | realtimeConversationListVoicesResponse
  | planUpdate
  | enteredReviewMode
  | exitedReviewMode (event : ExitedReviewModeEvent)
  | rawResponseItem
  | rawResponseCompleted
  | itemStarted
  | itemCompleted
  | hookStarted
  | hookCompleted
  | agentMessageContentDelta (event : AgentMessageContentDeltaEvent)
  | planDelta
  | reasoningContentDelta (event : ReasoningContentDeltaEvent)
  | reasoningRawContentDelta (event : ReasoningRawContentDeltaEvent)
  | collabAgentSpawnBegin
  | collabAgentSpawnEnd (event : CollabAgentSpawnEndEvent)
  | collabAgentInteractionBegin
  | collabAgentInteractionEnd (event : CollabReceiverEvent)
  | collabWaitingBegin
  | collabWaitingEnd (event : CollabWaitingEndEvent)
  | collabCloseBegin
  | collabCloseEnd (event : CollabReceiverEvent)
  | collabResumeBegin
  | collabResumeEnd (event : CollabReceiverEvent)
  | subAgentActivity

/-! ## Response items -/

inductive WebSearchAction where
  | search
  | openPage
  | findInPage
  | other
  deriving DecidableEq, Repr

inductive LocalShellStatus where
  | completed
  | inProgress
  | incomplete
  deriving DecidableEq, Repr

/-- An item of the conversation with the model, as a thread records it. -/
inductive ResponseItem where
  | message
  | agentMessage
  | reasoning
  | localShellCall (callId : Option String) (status : LocalShellStatus)
  | functionCall (name callId : String)
  | toolSearchCall
  | functionCallOutput (callId : String)
  | customToolCall (name callId : String)
  | customToolCallOutput (callId : String)
  | toolSearchOutput
  | webSearchCall (id : Option String) (action : Option WebSearchAction)
  | imageGenerationCall
  | additionalTools
  | compaction
  | compactionTrigger
  | contextCompaction
  | other
  deriving DecidableEq, Repr

/-! ## Events of a thread -/

/-- An event of a Codex thread and the submission it belongs to. -/
structure Event where
  id : String
  msg : EventMsg

/-- For concrete runs: one of several approvals the call `call` of the first
submission asks for. -/
def Event.sampleApproval (approvalId : String) : Event :=
  { id := "submission-0"
    msg := .execApprovalRequest
      { callId := "call", approvalId := some approvalId, turnId := "turn"
        cwd := "/work", parsedCmd := [], networkApprovalContext := none
        additionalPermissions := none, effectiveAvailableDecisions := [.approved, .abort] } }

end CodexAcp.Protocol
