import CodexAcp.Lib.Transducer
import CodexAcp.Boundary.Mapper

/-!
# Streamed text

Codex sends what the agent says twice: in deltas while it is produced, and whole
when an item is complete. A submission forwards the deltas as they come and
keeps just enough to tell, when the whole message arrives, that the editor has it
already: whether deltas came since the last whole message, their text, and
whether pieces of reasoning came since the last whole reasoning.

This is the part of a submission's state that only decides what is shown
(`PromptState` has the rest). It takes the same events through the same route.
The updates of running commands, web searches and assessments are `rendered`:
they neither read nor write it.
-/

namespace CodexAcp.Thread

open CodexAcp.Lib CodexAcp.Protocol CodexAcp.Boundary

structure StreamingMessageState where
  seenMessageDeltas : Bool := false
  messageDeltaText : String := ""
  seenReasoningDeltas : Bool := false
  deriving DecidableEq, Repr

namespace StreamingMessageState

def recordMessageDelta (delta : String) (s : StreamingMessageState) : StreamingMessageState :=
  { s with seenMessageDeltas := true, messageDeltaText := s.messageDeltaText ++ delta }

def markReasoningDeltaSeen (s : StreamingMessageState) : StreamingMessageState :=
  { s with seenReasoningDeltas := true }

/-- The text streamed since the last whole message, which starts over. -/
def takeMessageDeltaText (s : StreamingMessageState) : Option String × StreamingMessageState :=
  if s.seenMessageDeltas then
    (some s.messageDeltaText, { s with seenMessageDeltas := false, messageDeltaText := "" })
  else (none, s)

def takeSeenReasoningDeltas (s : StreamingMessageState) : Bool × StreamingMessageState :=
  (s.seenReasoningDeltas, { s with seenReasoningDeltas := false })

/-! ## The handlers -/

def agentMessageContentDelta (event : AgentMessageContentDeltaEvent)
    (s : StreamingMessageState) : BridgeEffect × StreamingMessageState :=
  (agentTextEffect event.delta, s.recordMessageDelta event.delta)

def reasoningContentDelta (event : LiveReasoningContentDeltaEvent) (s : StreamingMessageState) :
    BridgeEffect × StreamingMessageState :=
  (agentThoughtEffect event.delta, s.markReasoningDeltaSeen)

def reasoningSectionBreak (s : StreamingMessageState) : BridgeEffect × StreamingMessageState :=
  (agentThoughtEffect "\n\n", s.markReasoningDeltaSeen)

/-- A whole message is sent when nothing was streamed before it, and when it is a
final answer that differs from what was. -/
def shouldSend (event : AgentMessageEvent) (streamed : Option String) : Bool :=
  match event.phase, streamed with
  | _, none => true
  | some .finalAnswer, some streamed => streamed ≠ event.message
  | _, _ => false

def agentMessage (event : AgentMessageEvent) (s : StreamingMessageState) :
    Option BridgeEffect × StreamingMessageState :=
  let (streamed, s) := s.takeMessageDeltaText
  (if shouldSend event streamed then some (agentTextEffect event.message) else none, s)

def agentReasoning (event : AgentReasoningEvent) (s : StreamingMessageState) :
    Option BridgeEffect × StreamingMessageState :=
  let (seen, s) := s.takeSeenReasoningDeltas
  (if seen then none else some (agentThoughtEffect event.text), s)

def handleForwardEvent (event : LiveForwardEvent) (s : StreamingMessageState) :
    Option BridgeEffect × StreamingMessageState :=
  match event with
  | .effect effect => (some effect, s)
  | .agentMessageContentDelta event => (s.agentMessageContentDelta event).map some id
  | .reasoningContentDelta event => (s.reasoningContentDelta event).map some id
  | .agentReasoningSectionBreak _ => s.reasoningSectionBreak.map some id
  | .agentMessage event => s.agentMessage event
  | .agentReasoning event => s.agentReasoning event
  | .webSearchBegin _ | .webSearchEnd _ | .exec _ | .guardianAssessment => (some .rendered, s)
  | .turnComplete _ | .error _ | .turnAborted _ | .shutdownComplete => (none, s)

/-- What a submission shows of an event, and what it keeps of it. -/
def handleEvent : Transducer StreamingMessageState EventMsg (Option BridgeEffect) :=
  fun event s =>
    match routeLiveEvent event with
    | .forward event => s.handleForwardEvent event
    | .requestPermission _ | .ignore _ => (none, s)

end StreamingMessageState

end CodexAcp.Thread
