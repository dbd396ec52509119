import CodexAcp.Lib.Text
import CodexAcp.Boundary.SessionUpdate

/-!
# Tool calls

What the events of commands, web searches, images and subagents are shown as. A
tool call is introduced once (`ToolCall`) and then changed (`ToolCallUpdate`);
of both the model keeps the id, the status and the output of a terminal. Titles,
kinds, locations, contents and the raw input and output are only displayed.

The output of a command is streamed to the editor's terminal while it runs, and
what is missing then is sent when it ends:

> `completionTerminalOutputDelta`: the rest of the final output after what was
> streamed, or all of it when what was streamed is no prefix of it.
-/

namespace CodexAcp.Boundary

open CodexAcp.Lib CodexAcp.Protocol

/-! ## Commands -/

/-- Whether the output of a command belongs in a terminal; a later part of the command line
that can be read or searched leaves it as it is. -/
structure ParseCommandToolCall where
  terminalOutput : Bool
  deriving DecidableEq, Repr

def parseCommandToolCall (codex : Codex) (parsedCmd : List ParsedCommand) (cwd : String) :
    ParseCommandToolCall :=
  parsedCmd.foldl
    (fun toolCall cmd =>
      match cmd with
      | .read _ _ _ | .search _ _ _ => toolCall
      | .listFiles _ _ => { toolCall with terminalOutput := true }
      | .unknown cmd =>
        { toolCall with
          terminalOutput := toolCall.terminalOutput || codex.unknownCommandTerminalOutput cmd cwd })
    { terminalOutput := false }

/-- A command that runs, with what it has put out so far. -/
structure ActiveCommand where
  toolCallId : String
  terminalOutput : Bool
  output : String
  deriving DecidableEq, Repr

namespace ActiveCommand

/-- A piece of output goes to the terminal; without one, the tool call shows all the output
there is. -/
def renderStreamingUpdate (terminalId : String) (supportsTerminalOutput : Bool) (data : String)
    (command : ActiveCommand) : ToolCallUpdate :=
  if supportsTerminalOutput then
    { toolCallId := command.toolCallId
      terminalOutputDelta := some { terminalId := terminalId, data := data } }
  else { toolCallId := command.toolCallId, status := some .inProgress }

/-- What of the final output the terminal still lacks. -/
def completionTerminalOutputDelta (outputSnapshot : String) (command : ActiveCommand) :
    Option String :=
  if outputSnapshot = "" then none
  else if command.output = "" then some outputSnapshot
  else
    match Text.stripPrefix command.output outputSnapshot with
    | some suffix => if suffix = "" then none else some suffix
    | none => if outputSnapshot ≠ command.output then some outputSnapshot else none

end ActiveCommand

structure ExecCommandBeginPlan where
  callId : String
  activeCommand : ActiveCommand
  toolCall : ToolCall
  deriving DecidableEq, Repr

def execCommandBeginPlan (codex : Codex) (event : ExecCommandBeginEvent) : ExecCommandBeginPlan :=
  let parsed := parseCommandToolCall codex event.parsedCmd event.cwd
  { callId := event.callId
    activeCommand :=
      { toolCallId := event.callId, terminalOutput := parsed.terminalOutput, output := "" }
    toolCall := { toolCallId := event.callId, status := .inProgress } }

def execCompletionStatus (status : ExecCommandStatus) (exitCode : Int) : ToolCallStatus :=
  match status with
  | .completed => .completed
  | .failed | .declined => if exitCode = 0 then .completed else .failed

/-- The output a command ends with: formatted, or else as it was streamed, or else as Codex
collected it. -/
def execCompletionOutputSnapshot (formattedOutput : String) (command : ActiveCommand)
    (aggregatedOutput : String) : String :=
  if formattedOutput ≠ "" then formattedOutput
  else if command.output ≠ "" then command.output
  else aggregatedOutput

structure ExecCommandEndPlan where
  streamingUpdate : Option ToolCallUpdate
  completionUpdate : ToolCallUpdate
  deriving DecidableEq, Repr

def execCommandEndPlan (event : ExecCommandEndEvent) (command : ActiveCommand)
    (supportsTerminalOutput : Bool) : ExecCommandEndPlan :=
  let outputSnapshot :=
    execCompletionOutputSnapshot event.formattedOutput command event.aggregatedOutput
  let delta :=
    if supportsTerminalOutput then command.completionTerminalOutputDelta outputSnapshot else none
  { streamingUpdate := delta.map fun data =>
      command.renderStreamingUpdate event.callId supportsTerminalOutput data
    completionUpdate :=
      { toolCallId := command.toolCallId
        status := some (execCompletionStatus event.status event.exitCode) } }

/-! ## Web searches -/

def webSearchBeginToolCall (callId : String) : ToolCall := { toolCallId := callId }

def webSearchUpdateToolCallUpdate (callId : String) : ToolCallUpdate :=
  { toolCallId := callId, status := some .inProgress }

def webSearchCompleteToolCallUpdate (callId : String) : ToolCallUpdate :=
  { toolCallId := callId, status := some .completed }

/-! ## Images and subagents, replayed

A replayed history has the end of each; the tool call is introduced as it ended. -/

def imageGenerationReplayToolCall (event : ImageGenerationEndEvent) : ToolCall :=
  { toolCallId := event.callId
    status := if event.status = "completed" then .completed else .failed }

/-- A tool call that is shown when it is over. -/
def completedToolCall (callId : String) : ToolCall := { toolCallId := callId, status := .completed }

def collabSpawnEndStatus (event : CollabAgentSpawnEndEvent) : ToolCallStatus :=
  if event.newThreadId.isSome then .completed else .failed

def collabSpawnReplayToolCall (event : CollabAgentSpawnEndEvent) : ToolCall :=
  { toolCallId := event.callId, status := collabSpawnEndStatus event }

def collabInteractionReplayToolCall (event : CollabReceiverEvent) : ToolCall :=
  completedToolCall event.callId

def collabWaitingReplayToolCall (event : CollabWaitingEndEvent) : ToolCall :=
  completedToolCall event.callId

def collabCloseReplayToolCall (event : CollabReceiverEvent) : ToolCall :=
  completedToolCall event.callId

def collabResumeReplayToolCall (event : CollabReceiverEvent) : ToolCall :=
  completedToolCall event.callId

end CodexAcp.Boundary
