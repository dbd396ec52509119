import CodexAcp.Lib.Dict
import CodexAcp.Lib.Transducer
import CodexAcp.Lib.Utf8
import CodexAcp.Boundary.Mapper
import CodexAcp.Boundary.Permission

/-!
# Tools that run

What a submission knows of the commands and the web search that run in it: each
command with its output so far, by the id of its call, and the one web search
that is taken to be going on. Codex does not tell when a web search is over; it
is completed before the next event that comes only then.

This is the part of a submission's state that commands and searches are shown
by (`PromptState` has the rest, `StreamingMessageState` the texts). It takes the
same events through the same route.
-/

namespace CodexAcp.Thread

open CodexAcp.Lib CodexAcp.Protocol CodexAcp.Boundary

/-! ## The editor -/

/-- How an editor names itself. -/
structure Implementation where
  name : String
  title : Option String
  deriving DecidableEq, Repr

/-- What is known of the editor when output is to be shown in a terminal, and the two
switches of the adapter's own environment. -/
structure SessionClient where
  clientCapabilitiesMeta : Option (List (String × Json))
  clientInfo : Option Implementation
  disableTerminalOutput : Bool
  enableExperimentalTerminalOutput : Bool

def implementationIsZed (clientInfo : Option Implementation) : Bool :=
  match clientInfo with
  | none => false
  | some info =>
    Text.toAsciiLowercase info.name = "zed" ||
      info.title.any fun title => Text.contains "zed" (Text.toAsciiLowercase title)

def clientAdvertisesTerminalOutput (clientMeta : Option (List (String × Json))) : Bool :=
  clientMeta.any fun members =>
    (Json.get members "terminal_output").any fun value => value.asBool.getD false

namespace SessionClient

def isZedClient (client : SessionClient) : Bool := implementationIsZed client.clientInfo

def supportsTerminalOutput (client : SessionClient) (command : ActiveCommand) : Bool :=
  if client.disableTerminalOutput || !command.terminalOutput then false
  else if !clientAdvertisesTerminalOutput client.clientCapabilitiesMeta then false
  else client.isZedClient || client.enableExperimentalTerminalOutput

/-- For concrete runs: an editor that shows terminals. -/
def sample : SessionClient :=
  { clientCapabilitiesMeta := some [("terminal_output", .bool true)]
    clientInfo := some { name := "zed", title := none }
    disableTerminalOutput := false
    enableExperimentalTerminalOutput := false }

end SessionClient

/-! ## The tools of a submission -/

structure ActiveToolState where
  commands : Dict String ActiveCommand := ∅
  webSearch : Option String := none

/-- What is shown of an event: the end of the web search it completes, and then itself. -/
structure ToolAnswer where
  completed : Option BridgeEffect
  effects : List BridgeEffect

namespace ActiveToolState

def insertActiveCommand (callId : String) (command : ActiveCommand) (s : ActiveToolState) :
    ActiveToolState :=
  { s with commands := s.commands.insert callId command }

def removeActiveCommand (callId : String) (s : ActiveToolState) :
    Option ActiveCommand × ActiveToolState :=
  (s.commands.lookup callId, { s with commands := s.commands.erase callId })

/-- Output of a command that runs; output of another one is dropped. -/
def streamActiveCommandOutput (client : SessionClient) (callId data : String)
    (s : ActiveToolState) : Option BridgeEffect × ActiveToolState :=
  match s.commands.lookup callId with
  | none => (none, s)
  | some command =>
    let command := { command with output := command.output ++ data }
    let supportsTerminalOutput := client.supportsTerminalOutput command
    (if supportsTerminalOutput then
      some (.toolCallUpdate (command.renderStreamingUpdate callId supportsTerminalOutput data))
     else none,
     { s with commands := s.commands.insert callId command })

/-! ## Commands -/

/-- A command that is asked about is known from then on. -/
def execApproval (codex : Codex) (event : ExecApprovalRequestEvent) (s : ActiveToolState) :
    ActiveToolState :=
  match execApprovalInteraction codex event with
  | .error _ => s
  | .ok interaction =>
    s.insertActiveCommand interaction.activeCommand.callId
      { toolCallId := interaction.activeCommand.toolCallId
        terminalOutput := interaction.activeCommand.terminalOutput
        output := "" }

def execCommandBegin (codex : Codex) (event : ExecCommandBeginEvent) (s : ActiveToolState) :
    BridgeEffect × ActiveToolState :=
  let plan := execCommandBeginPlan codex event
  (.toolCall plan.toolCall, s.insertActiveCommand plan.callId plan.activeCommand)

def execCommandOutputDelta (client : SessionClient) (event : ExecCommandOutputDeltaEvent)
    (s : ActiveToolState) : Option BridgeEffect × ActiveToolState :=
  s.streamActiveCommandOutput client event.callId (Utf8.fromUtf8Lossy event.chunk)

def execCommandEnd (client : SessionClient) (event : ExecCommandEndEvent) (s : ActiveToolState) :
    List BridgeEffect × ActiveToolState :=
  match s.removeActiveCommand event.callId with
  | (some command, s) =>
    let plan := execCommandEndPlan event command (client.supportsTerminalOutput command)
    (plan.streamingUpdate.toList.map .toolCallUpdate ++ [.toolCallUpdate plan.completionUpdate], s)
  | (none, s) => ([], s)

/-- What is typed into a command is echoed on lines of its own. -/
def echo (stdin : String) : String := "\n" ++ stdin ++ "\n"

def terminalInteraction (client : SessionClient) (event : TerminalInteractionEvent)
    (s : ActiveToolState) : Option BridgeEffect × ActiveToolState :=
  s.streamActiveCommandOutput client event.callId (echo event.stdin)

def handleExecEvent (codex : Codex) (client : SessionClient) (event : LiveExecEvent)
    (s : ActiveToolState) : List BridgeEffect × ActiveToolState :=
  match event with
  | .commandBegin event => (s.execCommandBegin codex event).map (fun effect => [effect]) id
  | .outputDelta event => (s.execCommandOutputDelta client event).map Option.toList id
  | .commandEnd event => s.execCommandEnd client event
  | .terminalInteraction event => (s.terminalInteraction client event).map Option.toList id

/-! ## Web searches -/

def startWebSearch (callId : String) (s : ActiveToolState) : BridgeEffect × ActiveToolState :=
  (.toolCall (webSearchBeginToolCall callId), { s with webSearch := some callId })

def updateWebSearchQuery (callId : String) : BridgeEffect :=
  .toolCallUpdate (webSearchUpdateToolCallUpdate callId)

def completeWebSearch (s : ActiveToolState) : Option BridgeEffect × ActiveToolState :=
  (s.webSearch.map fun callId => .toolCallUpdate (webSearchCompleteToolCallUpdate callId),
   { s with webSearch := none })

/-! ## Events -/

def handleForwardEvent (codex : Codex) (client : SessionClient) (event : LiveForwardEvent)
    (s : ActiveToolState) : List BridgeEffect × ActiveToolState :=
  match event with
  | .effect effect => ([effect], s)
  | .webSearchBegin event => (s.startWebSearch event.callId).map (fun effect => [effect]) id
  | .webSearchEnd event => ([updateWebSearchQuery event.callId], s)
  | .exec event => s.handleExecEvent codex client event
  | .guardianAssessment => ([.rendered], s)
  | .agentMessageContentDelta _ | .reasoningContentDelta _ | .agentReasoningSectionBreak _
  | .agentMessage _ | .agentReasoning _ | .turnComplete _ | .error _ | .turnAborted _
  | .shutdownComplete => ([], s)

def handlePermissionEvent (codex : Codex) (event : LivePermissionEvent) (s : ActiveToolState) :
    ActiveToolState :=
  match event with
  | .execApprovalRequest event => s.execApproval codex event
  | .requestPermissions _ | .elicitationRequest _ | .applyPatchApprovalRequest _ => s

/-- Complete the web search, if the event comes only when it is over. -/
def completeBefore (event : EventMsg) (s : ActiveToolState) :
    Option BridgeEffect × ActiveToolState :=
  if completesActiveWebSearchBefore event then s.completeWebSearch else (none, s)

def handleRoute (codex : Codex) (client : SessionClient) (route : LiveEventRoute)
    (s : ActiveToolState) : List BridgeEffect × ActiveToolState :=
  match route with
  | .forward event => s.handleForwardEvent codex client event
  | .requestPermission event => ([], s.handlePermissionEvent codex event)
  | .ignore _ => ([], s)

/-- What an event is shown as, and what is known of the tools afterwards. -/
def handleEvent (codex : Codex) (client : SessionClient) :
    Transducer ActiveToolState EventMsg ToolAnswer := fun event s =>
  let (completed, s) := s.completeBefore event
  let (effects, s) := s.handleRoute codex client (routeLiveEvent event)
  ({ completed := completed, effects := effects }, s)

/-! ## Events of other kinds -/

/-- The events about commands and web searches. -/
def isToolEvent : EventMsg → Bool
  | .execApprovalRequest _ | .execCommandBegin _ | .execCommandOutputDelta _
  | .terminalInteraction _ | .execCommandEnd _ | .webSearchBegin _ | .webSearchEnd _ => true
  | _ => false

def showsToolCall : BridgeEffect → Bool
  | .forward (.toolCall _) | .forward (.toolCallUpdate _) => true
  | _ => false

/-- A route that changes nothing about tools and shows no tool call. -/
def PassesBy (route : LiveEventRoute) : Prop := ∀ codex client s,
  (handleRoute codex client route s).2 = s ∧
    ∀ effect ∈ (handleRoute codex client route s).1, showsToolCall effect = false

theorem passesBy_nothing {route : LiveEventRoute}
    (h : ∀ codex client s, handleRoute codex client route s = ([], s)) : PassesBy route := by
  intro codex client s
  rw [h]
  exact ⟨rfl, nofun⟩

theorem passesBy_ignore (reason : IgnoredCodexEventReason) : PassesBy (.ignore reason) :=
  passesBy_nothing fun _ _ _ => rfl

theorem passesBy_effect {effect : BridgeEffect} (h : showsToolCall effect = false) :
    PassesBy (.forward (.effect effect)) := by
  intro codex client s
  refine ⟨rfl, fun effect' heffect => ?_⟩
  rw [List.mem_singleton.mp heffect]
  exact h

theorem routeLiveEvent_passesBy {event : EventMsg} (h : isToolEvent event = false) :
    PassesBy (routeLiveEvent event) := by
  cases event
  case execApprovalRequest | execCommandBegin | execCommandOutputDelta | terminalInteraction
      | execCommandEnd | webSearchBegin | webSearchEnd => cases h
  case tokenCount event =>
    unfold routeLiveEvent
    dsimp only
    split
    · exact passesBy_ignore _
    · exact passesBy_effect rfl
  case turnAborted event =>
    unfold routeLiveEvent
    dsimp only
    split
    · exact passesBy_nothing fun _ _ _ => rfl
    · exact passesBy_ignore _
  case patchApplyUpdated event =>
    show PassesBy (if event.changes.isEmpty then .ignore .emptyToolCallUpdate
      else .forward (.effect .rendered))
    split
    · exact passesBy_ignore _
    · exact passesBy_effect rfl
  case exitedReviewMode event =>
    obtain ⟨reviewOutput⟩ := event
    cases reviewOutput with
    | none => exact passesBy_ignore _
    | some output => exact passesBy_effect rfl
  case guardianAssessment =>
    intro codex client s
    refine ⟨rfl, fun effect heffect => ?_⟩
    rw [List.mem_singleton.mp heffect]
    rfl
  -- What ends the turn, what the agent says, and the other questions.
  case error | turnComplete | shutdownComplete | agentMessage | agentReasoning
      | agentReasoningSectionBreak | agentMessageContentDelta | reasoningContentDelta
      | reasoningRawContentDelta | requestPermissions | elicitationRequest
      | applyPatchApprovalRequest => exact passesBy_nothing fun _ _ _ => rfl
  case threadRolledBack event =>
    refine passesBy_effect ?_
    unfold threadRolledBack
    split <;> rfl
  -- What is only shown.
  case warning | guardianWarning | contextCompacted | threadGoalUpdated | mcpToolCallBegin
      | mcpToolCallEnd | imageGenerationBegin | imageGenerationEnd
      | viewImageToolCall | dynamicToolCallRequest | dynamicToolCallResponse | patchApplyBegin
      | patchApplyEnd | planUpdate | collabAgentSpawnBegin | collabAgentSpawnEnd
      | collabAgentInteractionBegin | collabAgentInteractionEnd | collabWaitingBegin
      | collabWaitingEnd | collabCloseBegin | collabCloseEnd | collabResumeBegin
      | collabResumeEnd => exact passesBy_effect rfl
  all_goals exact passesBy_ignore _

end ActiveToolState

end CodexAcp.Thread
