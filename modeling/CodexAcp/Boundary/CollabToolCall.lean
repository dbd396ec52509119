import CodexAcp.Boundary.LiveToolCall
import CodexAcp.Boundary.Mapper

/-!
# Tool calls of subagents

A subagent is spawned, given input, waited for, closed and resumed. Each of these is
a tool call that begins and ends; a recorded history has only the ends, and shows
each as a tool call that is over. What was waited for may have no status at the
end, and then the update leaves the contents as they were.

The source hands these out as effects, one function for each event; here a function of
the same name makes the tool call or its update, and `CollabEvent.liveUpdate` says which
event gets which.
-/

namespace CodexAcp.Boundary.Shown

open CodexAcp.Lib CodexAcp.Protocol CodexAcp.Boundary

/-! ## Events

Each is kept with its `serde_json::json!`, the raw value of its tool call. -/

structure CollabAgentSpawnBeginEvent where
  callId : String
  prompt : String
  model : String
  reasoningEffort : ReasoningEffort
  json : Json := .null

structure CollabAgentSpawnEndEvent where
  callId : String
  newThreadId : Option ThreadId
  newAgentNickname : Option String
  newAgentRole : Option String
  prompt : String
  status : AgentStatus
  json : Json := .null

structure CollabAgentInteractionBeginEvent where
  callId : String
  prompt : String
  json : Json := .null

structure CollabAgentInteractionEndEvent where
  callId : String
  receiverThreadId : ThreadId
  receiverAgentNickname : Option String
  receiverAgentRole : Option String
  prompt : String
  status : AgentStatus
  json : Json := .null

structure CollabWaitingBeginEvent where
  callId : String
  receiverThreadIds : List ThreadId
  receiverAgents : List CollabAgentRef
  json : Json := .null

structure CollabCloseBeginEvent where
  callId : String
  json : Json := .null

structure CollabResumeBeginEvent where
  callId : String
  receiverThreadId : ThreadId
  receiverAgentNickname : Option String
  receiverAgentRole : Option String
  json : Json := .null

/-! ## Contents and titles -/

def collabPromptContent (prompt : String) : List ToolCallContent :=
  ((formatCollabPrompt prompt).map toolCallTextContent).toList

def collabStatusContent (status : AgentStatus) (prompt : Option String) : List ToolCallContent :=
  toolCallTextContent ("Status: " ++ formatAgentStatus status) ::
    (prompt.map collabPromptContent).getD []

def collabAgentLabel (nickname role : Option String) (threadId : ThreadId) : String :=
  formatAgentLabel nickname role (some threadId)

def collabSpawnEndTitle (event : CollabAgentSpawnEndEvent) : String :=
  match event.newThreadId with
  | some threadId =>
    "Spawned " ++ collabAgentLabel event.newAgentNickname event.newAgentRole threadId
  | none => "Spawn subagent"

def collabSpawnEndStatus (event : CollabAgentSpawnEndEvent) : ToolCallStatus :=
  if event.newThreadId.isSome then .completed else .failed

def collabSpawnEndContent (event : CollabAgentSpawnEndEvent) : List ToolCallContent :=
  collabStatusContent event.status (some event.prompt)

def collabInteractionEndTitle (event : CollabAgentInteractionEndEvent) : String :=
  "Sent input to " ++
    collabAgentLabel event.receiverAgentNickname event.receiverAgentRole event.receiverThreadId

def collabInteractionEndContent (event : CollabAgentInteractionEndEvent) : List ToolCallContent :=
  collabStatusContent event.status (some event.prompt)

def collabWaitingEndContent (event : CollabWaitingEndEvent) : List ToolCallContent :=
  ((formatCollabWaitingStatuses event.agentStatuses).map toolCallTextContent).toList

def collabCloseEndTitle (event : CollabReceiverEvent) : String :=
  "Closed " ++
    collabAgentLabel event.receiverAgentNickname event.receiverAgentRole event.receiverThreadId

def collabCloseEndContent (event : CollabReceiverEvent) : List ToolCallContent :=
  collabStatusContent event.status none

def collabResumeBeginTitle (event : CollabResumeBeginEvent) : String :=
  "Resume " ++
    collabAgentLabel event.receiverAgentNickname event.receiverAgentRole event.receiverThreadId

def collabResumeEndTitle (event : CollabReceiverEvent) : String :=
  "Resumed " ++
    collabAgentLabel event.receiverAgentNickname event.receiverAgentRole event.receiverThreadId

def collabResumeEndContent (event : CollabReceiverEvent) : List ToolCallContent :=
  collabStatusContent event.status none

/-! ## Begins

All are of the kind `other`, and in progress. -/

def collabBeginToolCall (callId title : String) (content : List ToolCallContent)
    (rawInput : Json) : ToolCall :=
  { callId := callId
    title := title
    kind := .other
    status := .inProgress
    content := content
    rawInput := some rawInput }

/-- `effortDisplay` is how Codex names an effort. -/
def collabSpawnBeginToolCall (effortDisplay : ReasoningEffort → String)
    (event : CollabAgentSpawnBeginEvent) : ToolCall :=
  collabBeginToolCall event.callId "Spawn subagent"
    (toolCallTextContent
        ("Model: " ++ event.model ++ " (" ++ effortDisplay event.reasoningEffort ++ ")") ::
      collabPromptContent event.prompt)
    event.json

def collabInteractionBeginToolCall (event : CollabAgentInteractionBeginEvent) : ToolCall :=
  collabBeginToolCall event.callId "Send input to subagent" (collabPromptContent event.prompt)
    event.json

def collabWaitingBeginToolCall (event : CollabWaitingBeginEvent) : ToolCall :=
  let title :=
    match event.receiverAgents with
    | [receiver] => "Waiting for " ++ formatCollabAgentRef receiver
    | _ => "Waiting for " ++ toString event.receiverThreadIds.length ++ " agent(s)"
  let content :=
    if !event.receiverAgents.isEmpty then
      [toolCallTextContent ("\n".intercalate
        ((event.receiverAgents.map formatCollabAgentRef).map fun label => "- " ++ label))]
    else []
  collabBeginToolCall event.callId title content event.json

def collabCloseBeginToolCall (event : CollabCloseBeginEvent) : ToolCall :=
  collabBeginToolCall event.callId "Close subagent" [] event.json

def collabResumeBeginToolCall (event : CollabResumeBeginEvent) : ToolCall :=
  collabBeginToolCall event.callId (collabResumeBeginTitle event) [] event.json

/-! ## Ends -/

def collabEndToolCallUpdate (callId title : String) (status : ToolCallStatus)
    (content : List ToolCallContent) (rawOutput : Json) : ToolCallUpdate :=
  { callId := callId
    status := some status
    title := some title
    content := some content
    rawOutput := some rawOutput }

/-- As a history shows it. -/
def collabReplayToolCall (callId title : String) (status : ToolCallStatus)
    (content : List ToolCallContent) : ToolCall :=
  { callId := callId, title := title, kind := .other, status := status, content := content }

def collabSpawnEndToolCallUpdate (event : CollabAgentSpawnEndEvent) : ToolCallUpdate :=
  collabEndToolCallUpdate event.callId (collabSpawnEndTitle event) (collabSpawnEndStatus event)
    (collabSpawnEndContent event) event.json

def collabSpawnReplayToolCall (event : CollabAgentSpawnEndEvent) : ToolCall :=
  collabReplayToolCall event.callId (collabSpawnEndTitle event) (collabSpawnEndStatus event)
    (collabSpawnEndContent event)

def collabInteractionEndToolCallUpdate (event : CollabAgentInteractionEndEvent) :
    ToolCallUpdate :=
  collabEndToolCallUpdate event.callId (collabInteractionEndTitle event) .completed
    (collabInteractionEndContent event) event.json

def collabInteractionReplayToolCall (event : CollabAgentInteractionEndEvent) : ToolCall :=
  collabReplayToolCall event.callId (collabInteractionEndTitle event) .completed
    (collabInteractionEndContent event)

/-- Without a status there are no contents to show. -/
def collabWaitingEndToolCallUpdate (event : CollabWaitingEndEvent) : ToolCallUpdate :=
  let content := collabWaitingEndContent event
  { callId := event.callId
    status := some .completed
    title := some "Subagent wait complete"
    content := if !content.isEmpty then some content else none
    rawOutput := some event.json }

def collabWaitingReplayToolCall (event : CollabWaitingEndEvent) : ToolCall :=
  collabReplayToolCall event.callId "Subagent wait complete" .completed
    (collabWaitingEndContent event)

def collabCloseEndToolCallUpdate (event : CollabReceiverEvent) : ToolCallUpdate :=
  collabEndToolCallUpdate event.callId (collabCloseEndTitle event) .completed
    (collabCloseEndContent event) event.json

def collabCloseReplayToolCall (event : CollabReceiverEvent) : ToolCall :=
  collabReplayToolCall event.callId (collabCloseEndTitle event) .completed
    (collabCloseEndContent event)

def collabResumeEndToolCallUpdate (event : CollabReceiverEvent) : ToolCallUpdate :=
  collabEndToolCallUpdate event.callId (collabResumeEndTitle event) .completed
    (collabResumeEndContent event) event.json

def collabResumeReplayToolCall (event : CollabReceiverEvent) : ToolCall :=
  collabReplayToolCall event.callId (collabResumeEndTitle event) .completed
    (collabResumeEndContent event)

/-! ## Ended live, and replayed -/

/-- A tool call of a subagent or an image that begins, of one kind. -/
structure IsBegin (call : ToolCall) : Prop where
  kind : call.kind = .other
  locations : call.locations = []

/-- An update of all a replayed tool call shows leaves the same row. -/
theorem act_collabEnd {call : ToolCall} (h : IsBegin call) (callId title : String)
    (status : ToolCallStatus) (content : List ToolCallContent) (rawOutput : Json) :
    (collabEndToolCallUpdate callId title status content rawOutput).act call.row =
      (collabReplayToolCall callId title status content).row := by
  obtain ⟨hkind, hlocations⟩ := h
  show Row.mk title call.kind status content call.locations = _
  rw [hkind, hlocations]
  rfl

theorem collabWaitingEndContent_eq_nil_iff (event : CollabWaitingEndEvent) :
    collabWaitingEndContent event = [] ↔ event.agentStatuses = [] := by
  unfold collabWaitingEndContent formatCollabWaitingStatuses
  cases event.agentStatuses with
  | nil => exact iff_of_true rfl rfl
  | cons entry entries => exact iff_of_false (List.cons_ne_nil _ _) (List.cons_ne_nil _ _)

/-- A wait that ends without a status shows what it began with. -/
theorem act_collabWaitingEnd_iff {call : ToolCall} (h : IsBegin call)
    (event : CollabWaitingEndEvent) :
    (collabWaitingEndToolCallUpdate event).act call.row =
        (collabWaitingReplayToolCall event).row ↔
      event.agentStatuses ≠ [] ∨ call.content = [] := by
  obtain ⟨hkind, hlocations⟩ := h
  show Row.mk _ call.kind _ ((if !(collabWaitingEndContent event).isEmpty then _
      else none).getD call.content) call.locations =
    Row.mk _ .other _ (collabWaitingEndContent event) [] ↔ _
  rw [hkind, hlocations, ne_eq, ← collabWaitingEndContent_eq_nil_iff event]
  cases hcontent : collabWaitingEndContent event with
  | nil =>
    simp [collabWaitingEndToolCallUpdate, collabWaitingReplayToolCall, collabReplayToolCall]
  | cons content rest =>
    simp [collabWaitingEndToolCallUpdate, collabWaitingReplayToolCall, collabReplayToolCall]

theorem act_imageGenerationEnd {call : ToolCall} (h : IsBegin call) (hcontent : call.content = [])
    (event : ImageGenerationEndEvent) :
    (imageGenerationEndToolCallUpdate event).act call.row =
      (imageGenerationReplayToolCall event).row := by
  obtain ⟨hkind, hlocations⟩ := h
  show Row.mk _ call.kind _ ((if !(formatImageGenerationContent event).isEmpty then _
      else none).getD call.content) ((event.savedPath.map fun path => [path]).getD
        call.locations) =
    Row.mk _ .other _ (formatImageGenerationContent event) event.savedPath.toList
  rw [hkind, hlocations, hcontent]
  cases formatImageGenerationContent event <;> cases event.savedPath <;> rfl

end CodexAcp.Boundary.Shown
