import CodexAcp.Lib.Text
import CodexAcp.Protocol.Codex

/-!
# What the editor is shown

The notifications that tell the editor what happens in a session, and the
effects an event can have on it. An update is kept with its content where a
modelled function makes or compares it: the texts and thoughts of the agent, the
notices among them, the options of the session, its goal, and the tool calls of
commands, web searches and replayed histories, with what tells one from another.
The others (plans, usage, other tool calls) are `rendered`.
-/

namespace CodexAcp.Boundary

open CodexAcp.Protocol

/-- What the agent shows: a text, a text marked as a warning, or a summary of the session's
state. -/
inductive AgentText where
  | text (text : String)
  | warning (message : String)
  | summary (summary : Summary)
  deriving DecidableEq, Repr

inductive ToolCallStatus where
  | pending
  | inProgress
  | completed
  | failed
  deriving DecidableEq, Repr

/-- The introduction of a tool call; without a status of its own it is pending. -/
structure ToolCall where
  toolCallId : String
  status : ToolCallStatus := .pending
  deriving DecidableEq, Repr

/-- Output for a terminal the editor shows. -/
structure TerminalOutput where
  terminalId : String
  data : String
  deriving DecidableEq, Repr

structure ToolCallUpdate where
  toolCallId : String
  status : Option ToolCallStatus := none
  terminalOutputDelta : Option TerminalOutput := none
  deriving DecidableEq, Repr

/-- A notification to the editor. The goal is shown as a snapshot of its fields. -/
inductive SessionUpdate where
  | agentMessageChunk (text : AgentText)
  | agentThoughtChunk (text : String)
  | configOptionUpdate (options : List SessionConfigOption)
  | goalUpdate (goal : Option ThreadGoal)
  | toolCall (toolCall : ToolCall)
  | toolCallUpdate (update : ToolCallUpdate)
  deriving DecidableEq, Repr

/-- What an event is shown as. -/
inductive BridgeEffect where
  | forward (update : SessionUpdate)
  | rendered
  deriving DecidableEq, Repr

def BridgeEffect.toolCall (toolCall : ToolCall) : BridgeEffect := .forward (.toolCall toolCall)

def BridgeEffect.toolCallUpdate (update : ToolCallUpdate) : BridgeEffect :=
  .forward (.toolCallUpdate update)

def agentText (text : String) : SessionUpdate := .agentMessageChunk (.text text)

def agentTextEffect (text : String) : BridgeEffect := .forward (agentText text)

def agentWarning (event : WarningEvent) : SessionUpdate :=
  .agentMessageChunk (.warning event.message)

def agentWarningEffect (event : WarningEvent) : BridgeEffect := .forward (agentWarning event)

def agentThought (text : String) : SessionUpdate := .agentThoughtChunk text

def agentThoughtEffect (text : String) : BridgeEffect := .forward (agentThought text)

def threadGoalEffect (goal : Option ThreadGoal) : BridgeEffect := .forward (.goalUpdate goal)

def threadGoalUpdated (event : ThreadGoalUpdatedEvent) : BridgeEffect :=
  threadGoalEffect (some event.goal)

def threadRolledBack (event : ThreadRolledBackEvent) : BridgeEffect :=
  if event.numTurns = 1 then agentTextEffect "Undo completed."
  else agentTextEffect s!"Rolled back {event.numTurns} turns."

def contextCompacted : BridgeEffect := agentTextEffect "Context compacted\n"

/-! ## What is not shown -/

inductive IgnoredCodexEventReason where
  | lifecycleOnly
  | alreadyRenderedByAnotherEvent
  | alreadyRenderedByClientInput
  | handledByActor
  | handledByResponseItem
  | missingToolCallId
  | missingUsageInfo
  | missingUsageContextWindow
  | invalidUsageContextWindow
  | missingReviewOutput
  | emptyToolCallUpdate
  | stateOnly
  | unsupportedByAcp
  | diagnosticOnly
  | supersededBySnapshot
  deriving DecidableEq, Repr

/-- The text of a review that is over. -/
def reviewModeExitEffect (event : ExitedReviewModeEvent) :
    Except IgnoredCodexEventReason BridgeEffect :=
  match event.reviewOutput with
  | none => .error .missingReviewOutput
  | some output =>
    .ok (agentTextEffect
      (match output.findings with
      | some findings => findings
      | none =>
        let explanation := Lib.Text.trim output.overallExplanation
        if explanation.isEmpty then "Reviewer failed to output a response" else explanation))

end CodexAcp.Boundary
