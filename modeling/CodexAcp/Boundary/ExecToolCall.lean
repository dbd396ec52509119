import CodexAcp.Boundary.OutputContent
import CodexAcp.Boundary.PatchToolCall
import CodexAcp.Boundary.ToolCall
import CodexAcp.Lib.Shell

/-!
# Tool calls of commands

A command is introduced with the title its command line is read as. An editor that
has terminals is given one to show, its output piece by piece, and its exit code;
any other editor is told to wait, and given all the output at the end. What an
output is shown as says whether it is folded: a failure, an answer of a line or two
and an empty output are not.

The tool calls are those of `Boundary.ToolCall` with everything they show.

> `recorded_execCommandEndPlan`: the ids, the statuses and the output of the terminal
> are the same.
-/

namespace CodexAcp.Boundary.Shown

open CodexAcp.Lib CodexAcp.Protocol CodexAcp.Boundary

/-- What reads a command line and a patch. Looked into deep enough, the unknown stages of a
command line come to an end, whatever is on the disk. -/
structure Reader where
  shlexSplit : String → Option (List String)
  /-- `parse_command` of `codex_shell_command`. -/
  parseCommand : List String → List ParsedCommand
  diffy : Diffy
  parseCommandToolCall : FileSystem → List ParsedCommand → String → Command.ParseCommandToolCall
  ends : ∀ disk parsedCmd cwd, ∃ fuel,
    Command.parseCommandToolCall shlexSplit parseCommand disk fuel parsedCmd cwd =
      some (parseCommandToolCall disk parsedCmd cwd)

/-- A command line is read to its end if each of its unknown stages is. -/
theorem stagesToolCall_isSome {unknown : String → Option Command.ParseCommandToolCall}
    (h : ∀ cmd, (unknown cmd).isSome = true) (cwd : String) (parsedCmd : List ParsedCommand) :
    (Command.stagesToolCall unknown cwd parsedCmd).isSome = true := by
  unfold Command.stagesToolCall
  rw [Option.isSome_map]
  generalize ({} : Command.Stages) = stages
  induction parsedCmd generalizing stages with
  | nil => rfl
  | cons cmd parsedCmd ih =>
    have hstage : (Command.Stages.addStage unknown cwd stages cmd).isSome = true := by
      cases cmd with
      | unknown cmd => exact (Option.isSome_map ..).trans (h cmd)
      | _ => rfl
    obtain ⟨next, hnext⟩ := Option.isSome_iff_exists.mp hstage
    rw [List.foldlM_cons, hnext]
    exact ih next

/-- For concrete runs: Codex does not know any command. -/
def Reader.sample : Reader where
  shlexSplit := Shell.split
  parseCommand _ := []
  diffy := wholeFiles
  parseCommandToolCall disk parsedCmd cwd :=
    (Command.stagesToolCall
      (fun cmd => some (Command.fallbackToolCall Shell.split disk cmd cwd)) cwd
      parsedCmd).get (stagesToolCall_isSome (fun _ => rfl) cwd parsedCmd)
  ends disk parsedCmd cwd := by
    refine ⟨1, ?_⟩
    rw [Option.some_get]
    refine congrArg (Command.stagesToolCall · cwd parsedCmd) (funext fun cmd => ?_)
    show (match Command.reparseUnknownCommand Shell.split (fun _ => []) cmd with
      | some _ => _
      | none => _) = _
    have hunknown : Command.reparseUnknownCommand Shell.split (fun _ => []) cmd = none := by
      unfold Command.reparseUnknownCommand
      dsimp only
      split
      · rfl
      · split <;> rfl
    rw [hunknown]

/-! ## Terminals -/

def terminalInfoKey : String := "terminal_info"
def terminalExitKey : String := "terminal_exit"

def terminalInfoMeta (terminalId cwd : String) (defaultOpen : Bool) (reason : String) : Meta :=
  [(terminalInfoKey, .object [("terminal_id", .string terminalId), ("cwd", .string cwd)]),
    (codexAcpKey, toolCallOutputDisplay defaultOpen reason)]

def terminalOutputDeltaMeta (terminalId data : String) : Meta :=
  [(terminalOutputKey, .object [("terminal_id", .string terminalId), ("data", .string data)])]

def terminalExitMeta (terminalId : String) (exitCode : Int) : Meta :=
  [(terminalExitKey, .object [("terminal_id", .string terminalId),
    ("exit_code", .number (toString exitCode)), ("signal", .null)])]

/-! ## How an output is displayed -/

def isShortOutput (output : String) : Bool :=
  output.toList.length ≤ 800 && (Text.lines output).length ≤ 8

def isDirectAnswerCommand (shlexSplit : String → Option (List String)) (command : String) :
    Bool :=
  match Command.programName (Command.commandArgv shlexSplit command) with
  | some program => program ∈ ["date", "pwd", "whoami"]
  | none => false

/-- A command that runs, with what it has put out so far. -/
structure ActiveCommand where
  toolCallId : String
  title : String
  kind : ToolKind
  terminalOutput : Bool
  output : String
  fileExtension : Option String
  cwd : String
  deriving DecidableEq, Repr

namespace ActiveCommand

/-- Without what only its tool call shows. -/
def recorded (command : ActiveCommand) : Boundary.ActiveCommand :=
  { toolCallId := command.toolCallId
    terminalOutput := command.terminalOutput
    output := command.output }

section Render

variable (reader : Reader) (disk : FileSystem)

def renderOutputContent (output : String) (command : ActiveCommand) : List ToolCallContent :=
  Boundary.renderOutputContent reader.diffy disk command.cwd command.fileExtension output

/-- A piece of output goes to the terminal; without one, all the output there is takes the place
of what was shown. -/
def renderStreamingUpdate (terminalId : String) (supportsTerminalOutput : Bool) (data : String)
    (command : ActiveCommand) : ToolCallUpdate :=
  if supportsTerminalOutput then
    { callId := command.toolCallId, metadata := some (terminalOutputDeltaMeta terminalId data) }
  else
    { callId := command.toolCallId
      kind := some command.kind
      status := some .inProgress
      title := some command.title
      content := some (command.renderOutputContent reader disk command.output) }

def renderPendingContent : List ToolCallContent :=
  [toolCallTextContent "Waiting for command output..."]

def renderEmptyCompletionContent (exitCode : Int) (status : ToolCallStatus) : List ToolCallContent :=
  let message :=
    match status with
    | .completed => "Command completed with no output."
    | .failed =>
      if exitCode ≠ 0 then
        "Command exited with code " ++ toString exitCode ++ " and produced no output."
      else "Command finished with no output."
    | .pending | .inProgress => "Command finished with no output."
  [toolCallTextContent message]

/-- Whether the output is shown unfolded, and why. -/
def initialOutputDisplay (command : ActiveCommand) : Bool × String :=
  if isDirectAnswerCommand reader.shlexSplit command.title then (true, "directAnswerCommand")
  else (false, "defaultCollapsed")

def completionOutputDisplay (outputSnapshot : String) (status : ToolCallStatus)
    (command : ActiveCommand) : Bool × String :=
  if status = .failed then (true, "failedCommand")
  else if isDirectAnswerCommand reader.shlexSplit command.title then (true, "directAnswerCommand")
  else if outputSnapshot = "" then (true, "emptyOutput")
  else if isShortOutput outputSnapshot then (true, "shortOutput")
  else (false, "defaultCollapsed")

def renderInitialContent (terminalId cwd : String) (supportsTerminalOutput : Bool)
    (command : ActiveCommand) : List ToolCallContent × Meta :=
  let (defaultOpen, reason) := command.initialOutputDisplay reader
  if supportsTerminalOutput then
    ([.terminal terminalId], terminalInfoMeta terminalId cwd defaultOpen reason)
  else (renderPendingContent, toolCallOutputDisplayMeta defaultOpen reason)

def renderCompletionContent (terminalId : String) (supportsTerminalOutput : Bool)
    (outputSnapshot : String) (exitCode : Int) (status : ToolCallStatus)
    (command : ActiveCommand) : List ToolCallContent :=
  if outputSnapshot = "" then renderEmptyCompletionContent exitCode status
  else
    let outputContent := command.renderOutputContent reader disk outputSnapshot
    if supportsTerminalOutput then
      if outputContent.any ToolCallContent.isDiff then outputContent else [.terminal terminalId]
    else outputContent

def renderCompletionMeta (terminalId : String) (supportsTerminalOutput : Bool)
    (outputSnapshot : String) (status : ToolCallStatus) (exitCode : Int)
    (command : ActiveCommand) : Meta :=
  let (defaultOpen, reason) := command.completionOutputDisplay reader outputSnapshot status
  (if supportsTerminalOutput then terminalExitMeta terminalId exitCode else []) ++
    [(codexAcpKey, toolCallOutputDisplay defaultOpen reason)]

end Render

end ActiveCommand

/-! ## The beginning and the end -/

structure ExecCommandBeginPlan where
  callId : String
  activeCommand : ActiveCommand
  toolCall : ToolCall

def execCommandBeginPlan (reader : Reader) (disk : FileSystem) (event : ExecCommandBeginEvent)
    (supportsTerminalOutput : ActiveCommand → Bool) : ExecCommandBeginPlan :=
  let parsed := reader.parseCommandToolCall disk event.parsedCmd event.cwd
  let activeCommand : ActiveCommand :=
    { toolCallId := event.callId
      title := parsed.title
      kind := .ofCommand parsed.kind
      terminalOutput := parsed.terminalOutput
      output := ""
      fileExtension := parsed.fileExtension
      cwd := event.cwd }
  let (content, metadata) := activeCommand.renderInitialContent reader event.callId event.cwd
    (supportsTerminalOutput activeCommand)
  { callId := event.callId
    activeCommand := activeCommand
    toolCall :=
      { callId := event.callId
        title := parsed.title
        kind := .ofCommand parsed.kind
        status := .inProgress
        content := content
        locations := parsed.locations
        rawInput := some event.json
        metadata := some metadata } }

/-- The output a command ends with. -/
def execCompletionOutputSnapshot (formattedOutput : String) (command : ActiveCommand)
    (aggregatedOutput : String) : String :=
  Boundary.execCompletionOutputSnapshot formattedOutput command.recorded aggregatedOutput

/-- The raw output of a command is without its output. -/
def rawExecCommandEnd (event : ExecCommandEndEvent) : Json :=
  let bytes (text : String) : Json := .number (toString text.utf8ByteSize)
  .object (event.members ++
    [("stdout_bytes", bytes event.stdout), ("stderr_bytes", bytes event.stderr),
      ("aggregated_output_bytes", bytes event.aggregatedOutput),
      ("formatted_output_bytes", bytes event.formattedOutput), ("output_omitted", .bool true)])

structure ExecCommandEndPlan where
  streamingUpdate : Option ToolCallUpdate
  completionUpdate : ToolCallUpdate

def execCommandEndPlan (reader : Reader) (disk : FileSystem) (event : ExecCommandEndEvent)
    (command : ActiveCommand) (supportsTerminalOutput : Bool) : ExecCommandEndPlan :=
  let status := execCompletionStatus event.status event.exitCode
  let outputSnapshot :=
    execCompletionOutputSnapshot event.formattedOutput command event.aggregatedOutput
  let delta :=
    if supportsTerminalOutput then command.recorded.completionTerminalOutputDelta outputSnapshot
    else none
  { streamingUpdate := delta.map fun data =>
      command.renderStreamingUpdate reader disk event.callId supportsTerminalOutput data
    completionUpdate :=
      { callId := command.toolCallId
        kind := some command.kind
        status := some status
        title := some command.title
        content := some (command.renderCompletionContent reader disk event.callId
          supportsTerminalOutput outputSnapshot event.exitCode status)
        rawOutput := some (rawExecCommandEnd event)
        metadata := some (command.renderCompletionMeta reader event.callId
          supportsTerminalOutput outputSnapshot status event.exitCode) } }

/-! ## Ids, statuses and the terminal -/

/-- A piece of output is written to the terminal it is for. -/
theorem recorded_renderStreamingUpdate (reader : Reader) (disk : FileSystem) (terminalId : String)
    (supportsTerminalOutput : Bool) (data : String) (command : ActiveCommand) :
    (command.renderStreamingUpdate reader disk terminalId supportsTerminalOutput data).recorded =
      command.recorded.renderStreamingUpdate terminalId supportsTerminalOutput data := by
  cases supportsTerminalOutput <;> rfl

/-- What is said at the end writes nothing more. -/
theorem terminalOutput?_renderCompletionMeta (reader : Reader) (terminalId : String)
    (supportsTerminalOutput : Bool) (outputSnapshot : String) (status : ToolCallStatus)
    (exitCode : Int) (command : ActiveCommand) :
    (command.renderCompletionMeta reader terminalId supportsTerminalOutput outputSnapshot status
      exitCode).terminalOutput? = none := by
  cases supportsTerminalOutput <;> rfl

/-- **The end of a command**, without what it shows. -/
theorem recorded_execCommandEndPlan (reader : Reader) (disk : FileSystem)
    (event : ExecCommandEndEvent) (command : ActiveCommand) (supportsTerminalOutput : Bool) :
    let plan := execCommandEndPlan reader disk event command supportsTerminalOutput
    let recorded := Boundary.execCommandEndPlan event command.recorded supportsTerminalOutput
    plan.streamingUpdate.map ToolCallUpdate.recorded = recorded.streamingUpdate ∧
      plan.completionUpdate.recorded = recorded.completionUpdate := by
  refine ⟨?_, ?_⟩
  · show Option.map _ (Option.map _ _) = _
    rw [Option.map_map]
    exact Option.map_congr fun data _ => recorded_renderStreamingUpdate ..
  · show Boundary.ToolCallUpdate.mk _ _ (some _ |>.bind Meta.terminalOutput?) = _
    rw [Option.bind_some, terminalOutput?_renderCompletionMeta]
    rfl

end CodexAcp.Boundary.Shown
