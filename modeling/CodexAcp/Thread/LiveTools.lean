import CodexAcp.Boundary.LiveRoute
import CodexAcp.Boundary.PermissionToolCall
import CodexAcp.Thread.ActiveTools
import CodexAcp.Thread.GuardianAssessments

/-!
# The tool calls of a submission

What a submission shows of its tool calls, in full: `handleLive` answers an event
with the notifications that go to the editor. It knows the commands that run, the
web search that is taken to be going on, and the assessments.

In the source these are fields of the submission, and an event is handled by a method of
its own; here the events that show tool calls are an alphabet of their own
(`LiveEvent`), and what the other events do is in `Thread.Submission` and
`Thread.Streaming`. The source reads the disk while it handles an event, so an event
carries the disk as it is by then. What it logs is left out.

> `handleLive_recorded`: without what is only shown, commands and web searches are
> those of `ActiveToolState.handleEvent`, with the same ids, statuses and output.
-/

namespace CodexAcp.Thread

open CodexAcp.Lib CodexAcp.Protocol CodexAcp.Boundary CodexAcp.Boundary.Shown

/-! ## The state -/

structure LiveTools where
  commands : Dict String Shown.ActiveCommand := ∅
  webSearch : Option String := none
  guardianAssessments : Finset String := ∅

namespace LiveTools

/-- What the submission is served by: Codex, the editor, and what makes tool calls. -/
structure Setting where
  codex : Codex
  client : SessionClient
  display : Display

/-- For concrete runs. -/
def Setting.sample : Setting where
  codex := .sample
  client := .sample
  display := .sample

variable (setting : Setting)

def supportsTerminalOutput (command : Shown.ActiveCommand) : Bool :=
  setting.client.supportsTerminalOutput command.recorded

def insertActiveCommand (callId : String) (command : Shown.ActiveCommand) (s : LiveTools) :
    LiveTools :=
  { s with commands := s.commands.insert callId command }

def removeActiveCommand (callId : String) (s : LiveTools) :
    Option Shown.ActiveCommand × LiveTools :=
  (s.commands.lookup callId, { s with commands := s.commands.erase callId })

/-- The command an approval asks about. -/
def approvalCommand (event : ExecApprovalRequestEvent) (disk : FileSystem) :
    Shown.ActiveCommand :=
  let parsed := setting.display.reader.parseCommandToolCall disk event.parsedCmd event.cwd
  { toolCallId := event.callId
    title := parsed.title
    kind := .ofCommand parsed.kind
    terminalOutput := parsed.terminalOutput
    output := ""
    fileExtension := parsed.fileExtension
    cwd := event.cwd }

/-- A command is known from when it is asked about, if it can be asked about. -/
def execApproval (event : ExecApprovalRequestEvent) (disk : FileSystem) (s : LiveTools) :
    LiveTools :=
  match execApprovalContent setting.codex event with
  | .error _ => s
  | .ok () => s.insertActiveCommand event.callId (approvalCommand setting event disk)

/-- The command that is known from then on is the one that was asked about: the request has its
id, its title and its kind. -/
theorem execApproval_asked {printer : Asked.Printer} {event : Asked.ExecApprovalRequestEvent}
    {disk : FileSystem} {seed : Asked.PermissionRequestSeed}
    (hseed : Asked.execApprovalRequestSeed setting.codex printer setting.display.reader disk event =
      .ok seed) (s : LiveTools) :
    ∃ command,
      (s.execApproval setting event.toExecApprovalRequestEvent disk).commands.lookup event.callId =
        some command ∧
      seed.toolCall.callId = command.toolCallId ∧ seed.toolCall.title = some command.title ∧
      seed.toolCall.kind = some command.kind := by
  have hasked : execApprovalContent setting.codex event.toExecApprovalRequestEvent = .ok () := by
    have hrecorded := Asked.execApproval_recorded setting.codex printer setting.display.reader disk
      event
    rw [hseed] at hrecorded
    unfold execApprovalInteraction at hrecorded
    cases hcontent : execApprovalContent setting.codex event.toExecApprovalRequestEvent with
    | ok _ => rfl
    | error err =>
      rw [hcontent] at hrecorded
      cases hrecorded
  refine ⟨approvalCommand setting event.toExecApprovalRequestEvent disk, ?_, ?_⟩
  · unfold execApproval
    rw [hasked]
    exact AList.lookup_insert _
  · unfold Asked.execApprovalRequestSeed at hseed
    cases hcontent : Asked.execApprovalContent setting.codex printer event with
    | error err =>
      rw [hcontent] at hseed
      cases hseed
    | ok content =>
      rw [hcontent] at hseed
      cases hseed
      exact ⟨rfl, rfl, rfl⟩

/-- What is shown of a piece of output, of a command that has it. -/
def streamedUpdates (disk : FileSystem) (callId data : String) (command : Shown.ActiveCommand) :
    List Shown.SessionUpdate :=
  let supports := supportsTerminalOutput setting command
  if supports then
    [.toolCallUpdate
      (command.renderStreamingUpdate setting.display.reader disk callId supports data)]
  else []

def streamActiveCommandOutput (disk : FileSystem) (callId data : String) (s : LiveTools) :
    List Shown.SessionUpdate × LiveTools :=
  match s.commands.lookup callId with
  | none => ([], s)
  | some command =>
    let command := { command with output := command.output ++ data }
    (streamedUpdates setting disk callId data command, s.insertActiveCommand callId command)

def execCommandBegin (event : ExecCommandBeginEvent) (disk : FileSystem) (s : LiveTools) :
    List Shown.SessionUpdate × LiveTools :=
  let plan := Shown.execCommandBeginPlan setting.display.reader disk event
    (supportsTerminalOutput setting)
  ([.toolCall plan.toolCall], s.insertActiveCommand plan.callId plan.activeCommand)

def execCommandEnd (event : ExecCommandEndEvent) (disk : FileSystem) (s : LiveTools) :
    List Shown.SessionUpdate × LiveTools :=
  match s.removeActiveCommand event.callId with
  | (some command, s) =>
    let plan := Shown.execCommandEndPlan setting.display.reader disk event command
      (supportsTerminalOutput setting command)
    (plan.streamingUpdate.toList.map .toolCallUpdate ++ [.toolCallUpdate plan.completionUpdate], s)
  | (none, s) => ([], s)

def completeWebSearch (s : LiveTools) : List Shown.SessionUpdate × LiveTools :=
  (s.webSearch.toList.map fun callId =>
      .toolCallUpdate (Shown.webSearchCompleteToolCallUpdate callId),
   { s with webSearch := none })

def completeBefore (event : EventMsg) (s : LiveTools) : List Shown.SessionUpdate × LiveTools :=
  if completesActiveWebSearchBefore event then s.completeWebSearch else ([], s)

/-- The assessments that go on after a report, and what is shown of it. -/
def assess (event : Guardian.GuardianAssessmentEvent) (s : LiveTools) :
    List Shown.SessionUpdate × LiveTools :=
  let (effect, active) :=
    guardianAssessment setting.display.shlexTryJoin event s.guardianAssessments
  ([effect], { s with guardianAssessments := active })

/-- The event itself, once the web search that it ends is completed. -/
def handleRouted (event : LiveEvent) (s : LiveTools) : List Shown.SessionUpdate × LiveTools :=
  match event with
  | .execApprovalRequest event disk => ([], s.execApproval setting event disk)
  | .execCommandBegin event disk => s.execCommandBegin setting event disk
  | .execCommandOutputDelta event disk =>
    s.streamActiveCommandOutput setting disk event.callId (Utf8.fromUtf8Lossy event.chunk)
  | .terminalInteraction event disk =>
    s.streamActiveCommandOutput setting disk event.callId (ActiveToolState.echo event.stdin)
  | .execCommandEnd event disk => s.execCommandEnd setting event disk
  | .webSearchBegin callId =>
    ([.toolCall (Shown.webSearchBeginToolCall callId)], { s with webSearch := some callId })
  | .webSearchEnd callId query action =>
    ([.toolCallUpdate (Shown.webSearchUpdateToolCallUpdate setting.display.actionJson callId query
      action)], s)
  | .guardianAssessment event => s.assess setting event
  | event => (statelessUpdates setting.display event, s)

/-- What an event is shown as, and what is known of the tools afterwards. -/
def handleLive : Transducer LiveTools LiveEvent (List Shown.SessionUpdate) := fun event s =>
  let (completed, s) := s.completeBefore event.recorded
  let (updates, s) := s.handleRouted setting event
  (completed ++ updates, s)

/-- What the editor is sent of a run. -/
def sent (events : List LiveEvent) (s : LiveTools) : List Shown.SessionUpdate :=
  (handleLive setting).trace (fun _ updates => updates) s events

/-! ## Without what is only shown -/

/-- What is known of commands and of the web search. -/
def recorded (s : LiveTools) : ActiveToolState :=
  { commands := s.commands.mapValues fun _ command => command.recorded
    webSearch := s.webSearch }

/-- The disk that the command line of an event is read on. -/
def readDisk : LiveEvent → Option FileSystem
  | .execApprovalRequest _ disk | .execCommandBegin _ disk => some disk
  | _ => none

/-- The environment says of every command line what reading it on the disk says. -/
def Setting.Agrees (setting : Setting) (disk : FileSystem) : Prop :=
  ∀ cmd cwd toolCall,
    Command.Yields setting.display.reader.shlexSplit setting.display.reader.parseCommand
      disk cmd cwd toolCall →
    setting.codex.unknownCommandTerminalOutput cmd cwd = toolCall.terminalOutput

variable {setting}

theorem lookup_recorded (s : LiveTools) (callId : String) :
    s.recorded.commands.lookup callId =
      (s.commands.lookup callId).map Shown.ActiveCommand.recorded :=
  Dict.lookup_mapValues _ _ _

theorem recorded_insertActiveCommand (callId : String) (command : Shown.ActiveCommand)
    (s : LiveTools) :
    (s.insertActiveCommand callId command).recorded =
      s.recorded.insertActiveCommand callId command.recorded :=
  congrArg (ActiveToolState.mk · s.webSearch) (Dict.mapValues_insert _ _ _ _)

/-- A command line has a terminal if the environment says so. -/
theorem parsed_terminalOutput {disk : FileSystem} (h : setting.Agrees disk)
    (parsedCmd : List ParsedCommand) (cwd : String) :
    (setting.display.reader.parseCommandToolCall disk parsedCmd cwd).terminalOutput =
      (Boundary.parseCommandToolCall setting.codex parsedCmd cwd).terminalOutput := by
  obtain ⟨fuel, hfuel⟩ := setting.display.reader.ends disk parsedCmd cwd
  exact Command.parseCommandToolCall_terminalOutput (fun cmd toolCall => h cmd cwd toolCall) hfuel

theorem recorded_completeBefore (event : EventMsg) (s : LiveTools) :
    (s.completeBefore event).2.recorded = (s.recorded.completeBefore event).2 ∧
      (s.completeBefore event).1.map SessionUpdate.recorded =
        (s.recorded.completeBefore event).1.toList := by
  unfold completeBefore ActiveToolState.completeBefore
  split
  · refine ⟨rfl, ?_⟩
    show (s.webSearch.toList.map _).map _ = (s.webSearch.map _).toList
    cases s.webSearch <;> rfl
  · exact ⟨rfl, rfl⟩

theorem recorded_streamedUpdates (disk : FileSystem) (callId data : String)
    (command : Shown.ActiveCommand) :
    (streamedUpdates setting disk callId data command).map SessionUpdate.recorded =
      (if setting.client.supportsTerminalOutput command.recorded then
        some (BridgeEffect.toolCallUpdate (command.recorded.renderStreamingUpdate callId
          (setting.client.supportsTerminalOutput command.recorded) data))
       else none).toList := by
  unfold streamedUpdates supportsTerminalOutput
  generalize setting.client.supportsTerminalOutput command.recorded = supports
  cases supports with
  | false => rfl
  | true => rfl

theorem recorded_streamActiveCommandOutput (disk : FileSystem) (callId data : String)
    (s : LiveTools) :
    (s.streamActiveCommandOutput setting disk callId data).2.recorded =
        (s.recorded.streamActiveCommandOutput setting.client callId data).2 ∧
      (s.streamActiveCommandOutput setting disk callId data).1.map SessionUpdate.recorded =
        (s.recorded.streamActiveCommandOutput setting.client callId data).1.toList := by
  unfold streamActiveCommandOutput ActiveToolState.streamActiveCommandOutput
  rw [lookup_recorded]
  cases s.commands.lookup callId with
  | none => exact ⟨rfl, rfl⟩
  | some command => exact ⟨recorded_insertActiveCommand .., recorded_streamedUpdates ..⟩

theorem recorded_removeActiveCommand (callId : String) (s : LiveTools) :
    (s.removeActiveCommand callId).2.recorded = (s.recorded.removeActiveCommand callId).2 :=
  congrArg (ActiveToolState.mk · s.webSearch) (Dict.mapValues_erase _ _ _)

theorem recorded_execCommandEnd (event : ExecCommandEndEvent) (disk : FileSystem)
    (s : LiveTools) :
    (s.execCommandEnd setting event disk).2.recorded =
        (s.recorded.execCommandEnd setting.client event).2 ∧
      (s.execCommandEnd setting event disk).1.map SessionUpdate.recorded =
        (s.recorded.execCommandEnd setting.client event).1 := by
  have hstate := recorded_removeActiveCommand event.callId s
  unfold execCommandEnd ActiveToolState.execCommandEnd
  unfold removeActiveCommand ActiveToolState.removeActiveCommand at hstate ⊢
  rw [lookup_recorded]
  cases s.commands.lookup event.callId with
  | none => exact ⟨hstate, rfl⟩
  | some command =>
    refine ⟨hstate, ?_⟩
    obtain ⟨hstreaming, hcompletion⟩ := recorded_execCommandEndPlan setting.display.reader disk
      event command (supportsTerminalOutput setting command)
    dsimp only [Option.map_some]
    rw [List.map_append, List.map_map, List.map_singleton]
    refine congrArg₂ (· ++ ·) ?_ (congrArg (fun update => [BridgeEffect.toolCallUpdate update])
      hcompletion)
    refine Eq.trans ?_ (congrArg (fun update => update.toList.map BridgeEffect.toolCallUpdate)
      hstreaming)
    generalize (Shown.execCommandEndPlan _ _ _ _ _).streamingUpdate = streaming
    cases streaming <;> rfl

theorem recorded_execApproval {disk : FileSystem} (h : setting.Agrees disk)
    (event : ExecApprovalRequestEvent) (s : LiveTools) :
    (s.execApproval setting event disk).recorded = s.recorded.execApproval setting.codex event := by
  unfold execApproval ActiveToolState.execApproval execApprovalInteraction
  cases execApprovalContent setting.codex event with
  | error err => rfl
  | ok _ =>
    refine (recorded_insertActiveCommand ..).trans ?_
    unfold approvalCommand Shown.ActiveCommand.recorded
    dsimp only
    rw [parsed_terminalOutput h]

theorem recorded_execCommandBegin {disk : FileSystem} (h : setting.Agrees disk)
    (event : ExecCommandBeginEvent) (s : LiveTools) :
    (s.execCommandBegin setting event disk).2.recorded =
        (s.recorded.execCommandBegin setting.codex event).2 ∧
      (s.execCommandBegin setting event disk).1.map SessionUpdate.recorded =
        [(s.recorded.execCommandBegin setting.codex event).1] := by
  refine ⟨(recorded_insertActiveCommand ..).trans ?_, rfl⟩
  unfold Shown.execCommandBeginPlan Shown.ActiveCommand.recorded ActiveToolState.execCommandBegin
    Boundary.execCommandBeginPlan
  dsimp only
  rw [parsed_terminalOutput h]

/-- An event about no tool call is about no command and no web search. -/
theorem isToolEvent_of_isToolCallEvent {msg : EventMsg} (h : isToolCallEvent msg = false) :
    ActiveToolState.isToolEvent msg = false := by
  cases msg <;> first | rfl | cases h

/-- An event that is about no command and no web search leaves both alone. -/
theorem handleRouted_of_other {event : LiveEvent}
    (h : ActiveToolState.isToolEvent event.recorded = false) (s : LiveTools) :
    (s.handleRouted setting event).2.recorded = s.recorded := by
  cases event <;> first | rfl | cases h

/-- **Without what is only shown**, commands and web searches go on as `ActiveToolState` says. -/
theorem handleLive_recorded {event : LiveEvent} (h : ∀ disk ∈ readDisk event, setting.Agrees disk)
    (s : LiveTools) :
    let answer := ActiveToolState.handleEvent setting.codex setting.client event.recorded s.recorded
    (handleLive setting event s).2.recorded = answer.2 ∧
      (ActiveToolState.isToolEvent event.recorded = true →
        (handleLive setting event s).1.map SessionUpdate.recorded =
          answer.1.completed.toList ++ answer.1.effects) := by
  obtain ⟨hstate, hcompleted⟩ := recorded_completeBefore event.recorded s
  show ((s.completeBefore event.recorded).2.handleRouted setting event).2.recorded =
      ((s.recorded.completeBefore event.recorded).2.handleRoute setting.codex setting.client
        (routeLiveEvent event.recorded)).2 ∧
    (_ → ((s.completeBefore event.recorded).1 ++
        ((s.completeBefore event.recorded).2.handleRouted setting event).1).map _ =
      (s.recorded.completeBefore event.recorded).1.toList ++
        ((s.recorded.completeBefore event.recorded).2.handleRoute setting.codex setting.client
          (routeLiveEvent event.recorded)).1)
  rw [List.map_append, hcompleted, ← hstate]
  generalize (s.completeBefore event.recorded).2 = s'
  suffices hrouted : (s'.handleRouted setting event).2.recorded =
      (s'.recorded.handleRoute setting.codex setting.client (routeLiveEvent event.recorded)).2 ∧
      (ActiveToolState.isToolEvent event.recorded = true →
        (s'.handleRouted setting event).1.map SessionUpdate.recorded =
          (s'.recorded.handleRoute setting.codex setting.client
            (routeLiveEvent event.recorded)).1) from
    ⟨hrouted.1, fun htool => congrArg _ (hrouted.2 htool)⟩
  cases htool : ActiveToolState.isToolEvent event.recorded with
  | false =>
    refine ⟨?_, nofun⟩
    rw [handleRouted_of_other htool]
    exact (((ActiveToolState.routeLiveEvent_passesBy htool) _ _ _).1).symm
  | true =>
    cases event
    case execApprovalRequest event disk =>
      exact ⟨recorded_execApproval (h disk rfl) event s', fun _ => rfl⟩
    case execCommandBegin event disk =>
      obtain ⟨hs, hupdates⟩ := recorded_execCommandBegin (h disk rfl) event s'
      exact ⟨hs, fun _ => hupdates⟩
    case execCommandOutputDelta event disk =>
      obtain ⟨hs, hupdates⟩ := @recorded_streamActiveCommandOutput setting disk
        event.callId (Utf8.fromUtf8Lossy event.chunk) s'
      exact ⟨hs, fun _ => hupdates⟩
    case terminalInteraction event disk =>
      obtain ⟨hs, hupdates⟩ := @recorded_streamActiveCommandOutput setting disk
        event.callId (ActiveToolState.echo event.stdin) s'
      exact ⟨hs, fun _ => hupdates⟩
    case execCommandEnd event disk =>
      obtain ⟨hs, hupdates⟩ := @recorded_execCommandEnd setting event disk s'
      exact ⟨hs, fun _ => hupdates⟩
    case webSearchBegin | webSearchEnd => exact ⟨rfl, fun _ => rfl⟩
    case collab event => cases event <;> cases htool
    case other msg =>
      cases htool.symm.trans (isToolEvent_of_isToolCallEvent msg.2)
    all_goals cases htool

end LiveTools

end CodexAcp.Thread
