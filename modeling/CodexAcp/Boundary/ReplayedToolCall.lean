import CodexAcp.Boundary.ReplayItem
import CodexAcp.Boundary.ShownToolCall

/-!
# Replayed tool calls

What a recorded response item is shown as, with its title, its kind, its locations
and its contents. The arguments of a shell tool come in three formats; a call of
which they cannot be read is shown under the name of the tool. A patch is shown
file by file.

The parsers of arguments, patches and commands are parameters. Codex may answer
with unknown stages again when a command is parsed, so a tool call is looked into
`fuel` levels deep.

> `replayResponseItemPlan_recorded`: of the ids and statuses it is the plan of
> the recorded item.
-/

namespace CodexAcp.Boundary.Replayed

open CodexAcp.Lib CodexAcp.Protocol

/-! ## Recorded items -/

structure LocalShellExecAction where
  command : List String
  workingDirectory : Option String
  deriving DecidableEq, Repr

inductive WebSearchAction where
  | search (query : Option String) (queries : Option (List String))
  | openPage (url : Option String)
  | findInPage (url pattern : Option String)
  | other
  deriving DecidableEq, Repr

/-- An item of the conversation, with what its tool call shows of it; an output is the JSON
value it is written as. -/
inductive ResponseItem where
  | functionCall (name arguments callId : String)
  | functionCallOutput (callId : String) (output : Json)
  | localShellCall (callId : Option String) (exec : LocalShellExecAction)
      (status : LocalShellStatus)
  | customToolCall (name input callId : String)
  | customToolCallOutput (callId : String) (output : Json)
  | webSearchCall (id : Option String) (action : Option WebSearchAction)
  | message
  | agentMessage
  | reasoning
  | imageGenerationCall
  | compaction
  | contextCompaction
  | compactionTrigger
  | additionalTools
  | toolSearchCall
  | toolSearchOutput
  | other

inductive ReplayResponseItemRoute where
  | shellFunctionCall (callId name arguments : String)
  | genericFunctionCall (callId name arguments : String)
  | functionCallOutput (callId : String) (output : Json)
  | localShellCall (callId : String) (command : List String) (workingDirectory : Option String)
      (status : ReplayToolCallStatus)
  | applyPatchCustomToolCall (callId input : String)
  | genericCustomToolCall (callId name input : String)
  | customToolCallOutput (callId : String) (output : Json)
  | webSearchCall (id : Option String) (action : Option WebSearchAction)
  | ignore (reason : IgnoredCodexEventReason)

def routeReplayResponseItem : ResponseItem → ReplayResponseItemRoute
  | .functionCall name arguments callId =>
    if isReplayShellTool name then .shellFunctionCall callId name arguments
    else .genericFunctionCall callId name arguments
  | .functionCallOutput callId output => .functionCallOutput callId output
  | .localShellCall (some callId) exec status =>
    .localShellCall callId exec.command exec.workingDirectory
      (match status with
      | .completed => .completed
      | .inProgress | .incomplete => .failed)
  | .localShellCall none _ _ => .ignore .missingToolCallId
  | .customToolCall name input callId =>
    if name = "apply_patch" then .applyPatchCustomToolCall callId input
    else .genericCustomToolCall callId name input
  | .customToolCallOutput callId output => .customToolCallOutput callId output
  | .webSearchCall id action => .webSearchCall id action
  | .message | .agentMessage | .reasoning | .imageGenerationCall =>
    .ignore .alreadyRenderedByAnotherEvent
  | .compaction | .contextCompaction | .compactionTrigger | .additionalTools =>
    .ignore .stateOnly
  | .toolSearchCall | .toolSearchOutput | .other => .ignore .unsupportedByAcp

theorem routeReplayResponseItem_functionCall (name arguments callId : String) :
    routeReplayResponseItem (.functionCall name arguments callId) =
      if isReplayShellTool name then .shellFunctionCall callId name arguments
      else .genericFunctionCall callId name arguments := rfl

theorem routeReplayResponseItem_customToolCall (name input callId : String) :
    routeReplayResponseItem (.customToolCall name input callId) =
      if name = "apply_patch" then .applyPatchCustomToolCall callId input
      else .genericCustomToolCall callId name input := rfl

/-! ## Tool calls -/

inductive ReplayResponseItemPlan where
  | effect (effect : Shown.SessionUpdate)
  | ignore (reason : IgnoredCodexEventReason)

namespace ReplayResponseItemPlan

def sendToolCall (toolCall : Shown.ToolCall) : ReplayResponseItemPlan := .effect (.toolCall toolCall)

def sendToolCallUpdate (update : Shown.ToolCallUpdate) : ReplayResponseItemPlan :=
  .effect (.toolCallUpdate update)

end ReplayResponseItemPlan

def completedToolCall (callId title : String) (kind : Shown.ToolKind) (rawInput : Option Json) :
    Shown.ToolCall :=
  { callId := callId, title := title, kind := kind, status := .completed, rawInput := rawInput }

def completedToolCallUpdate (callId : String) (rawOutput : Option Json) : Shown.ToolCallUpdate :=
  { callId := callId, status := some .completed, rawOutput := rawOutput }

/-! ## Arguments and patches -/

structure ReplayShellArgs where
  command : List String
  workdir : Option String

structure ReplayShellCommandArgs where
  command : String
  workdir : Option String

structure ReplayExecCommandArgs where
  cmd : Option String
  command : Option String
  cwd : Option String
  workdir : Option String

structure UpdateFileChunk where
  oldLines : List String
  newLines : List String

inductive Hunk where
  | addFile (path contents : String)
  | deleteFile (path : String)
  | updateFile (path : String) (movePath : Option String) (chunks : List UpdateFileChunk)

/-- What reads a recorded text, or fails to. -/
structure Parsers where
  /-- `serde_json::from_str`, of a value and of the arguments in each format. -/
  json : String → Option Json
  shellArgs : String → Option ReplayShellArgs
  shellCommandArgs : String → Option ReplayShellCommandArgs
  execCommandArgs : String → Option ReplayExecCommandArgs
  /-- `parse_patch` of `codex_apply_patch`. -/
  patch : String → Option (List Hunk)
  shlexSplit : String → Option (List String)
  /-- `parse_command` of `codex_shell_command`. -/
  command : List String → List ParsedCommand
  fs : FileSystem

def bashCommand (command : String) : List String := ["bash", "-lc", command]

def validateReplayCommand (command : List String) : Option (List String) :=
  match command.head? with
  | none => none
  | some program => if Text.trim program ≠ "" then some command else none

def parseReplayShellScript (command : String) : Option (List String) :=
  if Text.trim command = "" then none else some (bashCommand command)

namespace Hunk

def path : Hunk → String
  | addFile path _ | deleteFile path | updateFile path _ _ => path

/-- Where the file is, or where it is moved to. -/
def destPath (cwd : String) : Hunk → String
  | addFile path _ | deleteFile path => Path.join cwd path
  | updateFile path movePath _ =>
    match movePath with
    | some path => Path.join cwd path
    | none => Path.join cwd path

def content (cwd : String) (hunk : Hunk) : ToolCallContent :=
  .diff
    (match hunk with
    | addFile _ contents => { path := hunk.destPath cwd, newText := contents }
    | deleteFile _ => { path := hunk.destPath cwd, oldText := some "[file deleted]", newText := "" }
    | updateFile _ _ chunks =>
      { path := hunk.destPath cwd
        oldText := some ("\n".intercalate (chunks.flatMap UpdateFileChunk.oldLines))
        newText := "\n".intercalate (chunks.flatMap UpdateFileChunk.newLines) })

end Hunk

section Plan

variable (parsers : Parsers)

def parseReplayShellArgs (name arguments : String) : Option (List String × Option String) :=
  match name with
  | "shell_command" => do
    let args ← parsers.shellCommandArgs arguments
    some (← parseReplayShellScript args.command, args.workdir)
  | "exec_command" => do
    let args ← parsers.execCommandArgs arguments
    let command ← args.cmd.or args.command
    some (← parseReplayShellScript command, args.cwd.or args.workdir)
  | _ => do
    let args ← parsers.shellArgs arguments
    some (← validateReplayCommand args.command, args.workdir)

/-- The title, the locations and the contents. -/
def parseReplayApplyPatchCall (input cwd : String) :
    Option (String × List String × List ToolCallContent) := do
  let hunks ← parsers.patch input
  let fileNames := hunks.map Hunk.path
  let title := if fileNames.isEmpty then "Apply patch" else "Edit " ++ ", ".intercalate fileNames
  some (title, hunks.map (Hunk.destPath cwd), hunks.map (Hunk.content cwd))

/-- What a command is shown as, in the directory it is taken to run in. -/
def shownCommand (fuel : Nat) (command : List String) (commandCwd : String) :
    Option Command.ParseCommandToolCall :=
  Command.parseCommandToolCall parsers.shlexSplit parsers.command parsers.fs fuel
    (parsers.command command) commandCwd

/-- No tool call at all if the arguments cannot be read. -/
def replayShellFunctionCallToolCall (fuel : Nat) (callId name arguments cwd : String) :
    Option (Option Shown.ToolCall) :=
  match parseReplayShellArgs parsers name arguments with
  | none => some none
  | some (commandVec, workdir) =>
    let commandCwd := workdir.getD cwd
    (shownCommand parsers fuel commandVec commandCwd).map fun parsed =>
      some
        { callId := callId
          title := parsed.title
          kind := .ofCommand parsed.kind
          status := .completed
          locations := parsed.locations
          rawInput := parsers.json arguments }

def replayLocalShellCallToolCall (fuel : Nat) (callId : String) (command : List String)
    (workingDirectory : Option String) (status : ReplayToolCallStatus) (cwd : String) :
    Option Shown.ToolCall :=
  let commandCwd := workingDirectory.getD cwd
  (shownCommand parsers fuel command commandCwd).map fun parsed =>
    { callId := callId
      title := parsed.title
      kind := .ofCommand parsed.kind
      status :=
        match status with
        | .completed => .completed
        | .failed => .failed
      locations := parsed.locations }

def replayApplyPatchToolCall (callId input cwd : String) : Option Shown.ToolCall :=
  (parseReplayApplyPatchCall parsers input cwd).map fun (title, locations, content) =>
    { callId := callId
      title := title
      kind := .edit
      status := .completed
      locations := locations
      content := content
      rawInput := parsers.json input }

def webSearchActionToTitleAndId (uuid : String) (id : Option String) :
    WebSearchAction → String × String
  | .search query queries =>
    ((queries.map ", ".intercalate).or query |>.getD "Web search",
      id.getD (generateFallbackId "web_search" uuid))
  | .openPage url => (url.getD "Open page", id.getD (generateFallbackId "web_open" uuid))
  | .findInPage _ pattern =>
    (pattern.getD "Find in page", id.getD (generateFallbackId "web_find" uuid))
  | .other => ("Unknown", generateFallbackId "web_search" uuid)

def replayWebSearchToolCall (uuid : String) (id : Option String)
    (action : Option WebSearchAction) : Shown.ToolCall :=
  let (title, callId) :=
    match action with
    | none => ("Web Search", generateFallbackId "web_search" uuid)
    | some action => webSearchActionToTitleAndId uuid id action
  { callId := callId, title := title, kind := .search, status := .completed }

/-- The plan of an item, if looking into unknown stages comes to an end in time. -/
def replayResponseItemPlan (uuid : String) (fuel : Nat) (cwd : String) :
    ReplayResponseItemRoute → Option ReplayResponseItemPlan
  | .shellFunctionCall callId name arguments =>
    (replayShellFunctionCallToolCall parsers fuel callId name arguments cwd).map fun toolCall =>
      .sendToolCall
        (toolCall.getD (completedToolCall callId name .other (parsers.json arguments)))
  | .genericFunctionCall callId name arguments =>
    some (.sendToolCall (completedToolCall callId name .other (parsers.json arguments)))
  | .functionCallOutput callId output =>
    some (.sendToolCallUpdate (completedToolCallUpdate callId (some output)))
  | .localShellCall callId command workingDirectory status =>
    (replayLocalShellCallToolCall parsers fuel callId command workingDirectory status cwd).map
      .sendToolCall
  | .applyPatchCustomToolCall callId input =>
    some (.sendToolCall ((replayApplyPatchToolCall parsers callId input cwd).getD
      (completedToolCall callId "apply_patch" .other (parsers.json input))))
  | .genericCustomToolCall callId name input =>
    some (.sendToolCall (completedToolCall callId name .other (parsers.json input)))
  | .customToolCallOutput callId output =>
    some (.sendToolCallUpdate (completedToolCallUpdate callId (some output)))
  | .webSearchCall id action => some (.sendToolCall (replayWebSearchToolCall uuid id action))
  | .ignore reason => some (.ignore reason)

end Plan

/-! ## Without titles and locations -/

def WebSearchAction.recorded : WebSearchAction → Protocol.WebSearchAction
  | search _ _ => .search
  | openPage _ => .openPage
  | findInPage _ _ => .findInPage
  | other => .other

/-- The item, without what only its tool call shows of it. -/
def ResponseItem.recorded : ResponseItem → Protocol.ResponseItem
  | functionCall name _ callId => .functionCall name callId
  | functionCallOutput callId _ => .functionCallOutput callId
  | localShellCall callId _ status => .localShellCall callId status
  | customToolCall name _ callId => .customToolCall name callId
  | customToolCallOutput callId _ => .customToolCallOutput callId
  | webSearchCall id action => .webSearchCall id (action.map WebSearchAction.recorded)
  | message => .message
  | agentMessage => .agentMessage
  | reasoning => .reasoning
  | imageGenerationCall => .imageGenerationCall
  | compaction => .compaction
  | contextCompaction => .contextCompaction
  | compactionTrigger => .compactionTrigger
  | additionalTools => .additionalTools
  | toolSearchCall => .toolSearchCall
  | toolSearchOutput => .toolSearchOutput
  | other => .other

def ReplayResponseItemPlan.recorded : ReplayResponseItemPlan → Boundary.ReplayResponseItemPlan
  | effect shown => .effect shown.recorded
  | ignore reason => .ignore reason

/-- What an item is shown as has the id and the status that its recorded call and outcome
give. -/
theorem replayResponseItemPlan_recorded {parsers : Parsers} {uuid : String} {fuel : Nat}
    {cwd : String} {item : ResponseItem} {plan : ReplayResponseItemPlan}
    (h : replayResponseItemPlan parsers uuid fuel cwd (routeReplayResponseItem item) = some plan) :
    plan.recorded =
      Boundary.replayResponseItemPlan uuid
        (Boundary.routeReplayResponseItem item.recorded) := by
  cases item with
  | functionCall name arguments callId =>
    rw [ResponseItem.recorded, replayResponseItemPlan_functionCall]
    rw [routeReplayResponseItem_functionCall] at h
    by_cases hshell : isReplayShellTool name = true
    · rw [if_pos hshell] at h
      obtain ⟨shown, hshown, rfl⟩ := Option.map_eq_some_iff.mp h
      unfold replayShellFunctionCallToolCall at hshown
      split at hshown
      · cases hshown
        rfl
      · obtain ⟨parsed, -, rfl⟩ := Option.map_eq_some_iff.mp hshown
        rfl
    · rw [if_neg hshell] at h
      cases h
      rfl
  | customToolCall name input callId =>
    rw [ResponseItem.recorded, replayResponseItemPlan_customToolCall]
    rw [routeReplayResponseItem_customToolCall] at h
    by_cases hpatch : name = "apply_patch"
    · rw [if_pos hpatch] at h
      cases h
      unfold replayApplyPatchToolCall
      cases parseReplayApplyPatchCall parsers input cwd with
      | none => rfl
      | some shown => rfl
    · rw [if_neg hpatch] at h
      cases h
      rfl
  | localShellCall callId exec status =>
    cases callId with
    | none =>
      cases h
      rfl
    | some callId =>
      obtain ⟨call, hcall, rfl⟩ := Option.map_eq_some_iff.mp h
      obtain ⟨parsed, -, rfl⟩ := Option.map_eq_some_iff.mp hcall
      cases status <;> rfl
  | webSearchCall id action =>
    cases h
    cases action with
    | none => rfl
    | some action => cases action <;> rfl
  | _ =>
    cases h
    rfl

end CodexAcp.Boundary.Replayed
