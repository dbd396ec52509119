import CodexAcp.Boundary.CollabToolCall
import CodexAcp.Boundary.ExecToolCall
import CodexAcp.Boundary.Guardian

/-!
# Events that show tool calls

The events of a turn that introduce or change a tool call, with all that is shown
of them. Most show the same whenever they come (`statelessUpdates`); commands, web
searches and assessments depend on what came before, and are left to the
submission.

`LiveEvent.recorded` is the event as the routing of all events has it, and of the
stateless ones that routing says that they are rendered. Of a history only the ends
of subagents' calls and of images are shown (`replayUpdate`); the other tool calls
of a history come from its response items.
-/

namespace CodexAcp.Boundary.Shown

open CodexAcp.Lib CodexAcp.Protocol CodexAcp.Boundary

/-! ## Events -/

inductive CollabEvent where
  | spawnBegin (event : CollabAgentSpawnBeginEvent)
  | spawnEnd (event : CollabAgentSpawnEndEvent)
  | interactionBegin (event : CollabAgentInteractionBeginEvent)
  | interactionEnd (event : CollabAgentInteractionEndEvent)
  | waitingBegin (event : CollabWaitingBeginEvent)
  | waitingEnd (event : CollabWaitingEndEvent)
  | closeBegin (event : CollabCloseBeginEvent)
  | closeEnd (event : CollabReceiverEvent)
  | resumeBegin (event : CollabResumeBeginEvent)
  | resumeEnd (event : CollabReceiverEvent)

/-- The events that are about a tool call, as the routing of all events has them. -/
def isToolCallEvent : EventMsg → Bool
  | .execApprovalRequest _ | .execCommandBegin _ | .execCommandOutputDelta _
  | .terminalInteraction _ | .execCommandEnd _ | .webSearchBegin _ | .webSearchEnd _
  | .guardianAssessment | .mcpToolCallBegin | .mcpToolCallEnd | .dynamicToolCallRequest
  | .dynamicToolCallResponse | .imageGenerationBegin | .imageGenerationEnd _
  | .viewImageToolCall | .patchApplyBegin | .patchApplyUpdated _ | .patchApplyEnd
  | .collabAgentSpawnBegin | .collabAgentSpawnEnd _ | .collabAgentInteractionBegin
  | .collabAgentInteractionEnd _ | .collabWaitingBegin | .collabWaitingEnd _
  | .collabCloseBegin | .collabCloseEnd _ | .collabResumeBegin | .collabResumeEnd _ => true
  | _ => false

/-- An event of a turn, with what its tool call shows of it, and the disk as it is by then. -/
inductive LiveEvent where
  | execApprovalRequest (event : ExecApprovalRequestEvent) (disk : FileSystem)
  | execCommandBegin (event : ExecCommandBeginEvent) (disk : FileSystem)
  | execCommandOutputDelta (event : ExecCommandOutputDeltaEvent) (disk : FileSystem)
  | terminalInteraction (event : TerminalInteractionEvent) (disk : FileSystem)
  | execCommandEnd (event : ExecCommandEndEvent) (disk : FileSystem)
  | webSearchBegin (callId : String)
  | webSearchEnd (callId query : String) (action : Replayed.WebSearchAction)
  | guardianAssessment (event : Guardian.GuardianAssessmentEvent)
  | mcpToolCallBegin (callId : String) (invocation : McpInvocation)
  | mcpToolCallEnd (callId : String) (result : Except String CallToolResult)
  | dynamicToolCallRequest (callId tool : String) (arguments : Json)
  | dynamicToolCallResponse (event : DynamicToolCallResponseEvent)
  | imageGenerationBegin (callId : String)
  | imageGenerationEnd (event : ImageGenerationEndEvent)
  | viewImageToolCall (callId path : String)
  | patchApplyBegin (event : PatchApplyBeginEvent) (disk : FileSystem)
  | patchApplyUpdated (event : PatchApplyUpdatedEvent) (disk : FileSystem)
  | patchApplyEnd (event : PatchApplyEndEvent) (disk : FileSystem)
  | collab (event : CollabEvent)
  | other (msg : { msg : EventMsg // isToolCallEvent msg = false })

def CollabAgentSpawnEndEvent.recorded (event : CollabAgentSpawnEndEvent) :
    Protocol.CollabAgentSpawnEndEvent :=
  { callId := event.callId
    newThreadId := event.newThreadId
    newAgentNickname := event.newAgentNickname
    newAgentRole := event.newAgentRole
    status := event.status }

def CollabAgentInteractionEndEvent.recorded (event : CollabAgentInteractionEndEvent) :
    CollabReceiverEvent :=
  { callId := event.callId
    receiverThreadId := event.receiverThreadId
    receiverAgentNickname := event.receiverAgentNickname
    receiverAgentRole := event.receiverAgentRole
    status := event.status
    json := event.json }

def CollabEvent.recorded : CollabEvent → EventMsg
  | spawnBegin _ => .collabAgentSpawnBegin
  | spawnEnd event => .collabAgentSpawnEnd event.recorded
  | interactionBegin _ => .collabAgentInteractionBegin
  | interactionEnd event => .collabAgentInteractionEnd event.recorded
  | waitingBegin _ => .collabWaitingBegin
  | waitingEnd event => .collabWaitingEnd event
  | closeBegin _ => .collabCloseBegin
  | closeEnd event => .collabCloseEnd event
  | resumeBegin _ => .collabResumeBegin
  | resumeEnd event => .collabResumeEnd event

def LiveEvent.recorded : LiveEvent → EventMsg
  | execApprovalRequest event _ => .execApprovalRequest event
  | execCommandBegin event _ => .execCommandBegin event
  | execCommandOutputDelta event _ => .execCommandOutputDelta event
  | terminalInteraction event _ => .terminalInteraction event
  | execCommandEnd event _ => .execCommandEnd event
  | webSearchBegin callId => .webSearchBegin { callId := callId }
  | webSearchEnd callId _ _ => .webSearchEnd { callId := callId }
  | guardianAssessment _ => .guardianAssessment
  | mcpToolCallBegin _ _ => .mcpToolCallBegin
  | mcpToolCallEnd _ _ => .mcpToolCallEnd
  | dynamicToolCallRequest _ _ _ => .dynamicToolCallRequest
  | dynamicToolCallResponse _ => .dynamicToolCallResponse
  | imageGenerationBegin _ => .imageGenerationBegin
  | imageGenerationEnd event =>
    .imageGenerationEnd { callId := event.callId, status := event.status }
  | viewImageToolCall _ _ => .viewImageToolCall
  | patchApplyBegin _ _ => .patchApplyBegin
  | patchApplyUpdated event _ => .patchApplyUpdated { changes := event.changes.entries.map (·.1) }
  | patchApplyEnd _ _ => .patchApplyEnd
  | collab event => event.recorded
  | other msg => msg.1

/-! ## What an event shows by itself -/

section Live

/-- What the tool calls of a turn are made with. -/
structure Display where
  reader : Reader
  /-- `serde_json::from_value::<ContentBlock>`. -/
  parseContentBlock : Json → Option ContentBlock
  /-- `serde_json::json!` of an action. -/
  actionJson : Replayed.WebSearchAction → Json
  /-- How Codex names an effort. -/
  effortDisplay : ReasoningEffort → String
  /-- `shlex::try_join`. -/
  shlexTryJoin : List String → Option String

/-- For concrete runs. -/
def Display.sample : Display where
  reader := .sample
  parseContentBlock _ := none
  actionJson _ := .null
  effortDisplay _ := "medium"
  shlexTryJoin words := some (" ".intercalate words)

variable (display : Display)

def CollabEvent.liveUpdate : CollabEvent → SessionUpdate
  | spawnBegin event => .toolCall (collabSpawnBeginToolCall display.effortDisplay event)
  | spawnEnd event => .toolCallUpdate (collabSpawnEndToolCallUpdate event)
  | interactionBegin event => .toolCall (collabInteractionBeginToolCall event)
  | interactionEnd event => .toolCallUpdate (collabInteractionEndToolCallUpdate event)
  | waitingBegin event => .toolCall (collabWaitingBeginToolCall event)
  | waitingEnd event => .toolCallUpdate (collabWaitingEndToolCallUpdate event)
  | closeBegin event => .toolCall (collabCloseBeginToolCall event)
  | closeEnd event => .toolCallUpdate (collabCloseEndToolCallUpdate event)
  | resumeBegin event => .toolCall (collabResumeBeginToolCall event)
  | resumeEnd event => .toolCallUpdate (collabResumeEndToolCallUpdate event)

/-- What an event shows whatever came before it. -/
def statelessUpdates : LiveEvent → List SessionUpdate
  | .mcpToolCallBegin callId invocation => [.toolCall (mcpToolCallBegin callId invocation)]
  | .mcpToolCallEnd callId result =>
    [.toolCallUpdate (mcpToolCallEnd display.parseContentBlock callId result)]
  | .dynamicToolCallRequest callId tool arguments =>
    [.toolCall (dynamicToolCallBegin callId tool arguments)]
  | .dynamicToolCallResponse event => [.toolCallUpdate (dynamicToolCallEnd event)]
  | .imageGenerationBegin callId => [.toolCall (imageGenerationBeginToolCall callId)]
  | .imageGenerationEnd event => [.toolCallUpdate (imageGenerationEndToolCallUpdate event)]
  | .viewImageToolCall callId path => [.toolCall (viewImageToolCall callId path)]
  | .patchApplyBegin event disk =>
    [.toolCall (patchApplyBeginToolCall display.reader.diffy disk event)]
  | .patchApplyUpdated event disk =>
    (patchApplyUpdatedToolCallUpdate display.reader.diffy disk event).toList.map .toolCallUpdate
  | .patchApplyEnd event disk =>
    [.toolCallUpdate (patchApplyEndToolCallUpdate display.reader.diffy disk event)]
  | .collab event => [event.liveUpdate display]
  | .execApprovalRequest _ _ | .execCommandBegin _ _ | .execCommandOutputDelta _ _
  | .terminalInteraction _ _ | .execCommandEnd _ _ | .webSearchBegin _ | .webSearchEnd _ _ _
  | .guardianAssessment _ | .other _ => []

/-- The events whose tool call does not depend on what came before. -/
def LiveEvent.isStateless : LiveEvent → Bool
  | .execApprovalRequest _ _ | .execCommandBegin _ _ | .execCommandOutputDelta _ _
  | .terminalInteraction _ _ | .execCommandEnd _ _ | .webSearchBegin _ | .webSearchEnd _ _ _
  | .guardianAssessment _ | .other _ => false
  | _ => true

/-- **Routing.** What shows something by itself is rendered, and what shows nothing is not. -/
theorem routeLiveEvent_stateless {event : LiveEvent} (h : event.isStateless = true) :
    (statelessUpdates display event ≠ [] ∧
      routeLiveEvent event.recorded = .forward (.effect .rendered)) ∨
    (statelessUpdates display event = [] ∧
      routeLiveEvent event.recorded = .ignore .emptyToolCallUpdate) := by
  cases event
  case patchApplyUpdated event disk =>
    have hroute : routeLiveEvent (LiveEvent.patchApplyUpdated event disk).recorded =
        if (event.changes.entries.map (·.1)).isEmpty then .ignore .emptyToolCallUpdate
        else .forward (.effect .rendered) := rfl
    have hempty : (event.changes.entries.map (·.1)).isEmpty = event.changes.isEmpty := by
      show _ = event.changes.entries.isEmpty
      cases event.changes.entries <;> rfl
    rw [hroute, hempty]
    show ((patchApplyUpdatedToolCallUpdate _ _ event).toList.map _ ≠ [] ∧ _) ∨
      ((patchApplyUpdatedToolCallUpdate _ _ event).toList.map _ = [] ∧ _)
    unfold patchApplyUpdatedToolCallUpdate
    split
    · exact .inr ⟨rfl, rfl⟩
    · exact .inl ⟨List.cons_ne_nil _ _, rfl⟩
  case collab event => cases event <;> exact .inl ⟨List.cons_ne_nil _ _, rfl⟩
  case execApprovalRequest | execCommandBegin | execCommandOutputDelta | terminalInteraction
      | execCommandEnd | webSearchBegin | webSearchEnd | guardianAssessment | other => cases h
  all_goals exact .inl ⟨List.cons_ne_nil _ _, rfl⟩

end Live

/-! ## What a history shows -/

def CollabEvent.replayUpdate : CollabEvent → Option SessionUpdate
  | spawnEnd event => some (.toolCall (collabSpawnReplayToolCall event))
  | interactionEnd event => some (.toolCall (collabInteractionReplayToolCall event))
  | waitingEnd event => some (.toolCall (collabWaitingReplayToolCall event))
  | closeEnd event => some (.toolCall (collabCloseReplayToolCall event))
  | resumeEnd event => some (.toolCall (collabResumeReplayToolCall event))
  | spawnBegin _ | interactionBegin _ | waitingBegin _ | closeBegin _ | resumeBegin _ => none

/-- What is shown of an event that is replayed, if it is a tool call. -/
def replayUpdate : LiveEvent → Option SessionUpdate
  | .imageGenerationEnd event => some (.toolCall (imageGenerationReplayToolCall event))
  | .collab event => event.replayUpdate
  | _ => none

/-- The tool calls that a replayed event is shown as, by their ids and statuses. -/
def replayedToolCalls : ReplayEventAction → List BridgeEffect
  | .effect (.forward (.toolCall toolCall)) => [.toolCall toolCall]
  | _ => []

/-- **Replay** shows the tool calls that its routing says. -/
theorem replayUpdate_recorded (event : LiveEvent) :
    (replayUpdate event).toList.map SessionUpdate.recorded =
      replayedToolCalls (routeReplayEventAction event.recorded) := by
  cases event with
  | collab event => cases event <;> rfl
  | other msg =>
    obtain ⟨msg, hmsg⟩ := msg
    show [] = replayedToolCalls (routeReplayEventAction msg)
    cases msg
    case turnAborted event =>
      obtain ⟨turnId⟩ := event
      cases turnId <;> rfl
    all_goals first | rfl | cases hmsg
  | _ => rfl

end CodexAcp.Boundary.Shown
