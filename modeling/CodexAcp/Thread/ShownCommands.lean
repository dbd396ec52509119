import CodexAcp.Thread.ShownCalls

/-!
# Commands on the screen

A command is asked about, begins, puts out output, is typed to, and ends. An editor
that has terminals is given one to show when it begins; any other editor is told to
wait. At the end both show what the command put out, whatever else goes on meanwhile.

> `command_shown`: the row of a command that ended, in any run.
-/

namespace CodexAcp.Thread

open CodexAcp.Lib CodexAcp.Protocol CodexAcp.Boundary CodexAcp.Boundary.Shown

/-! ## The output of a call -/

/-- What an event adds to the output of a call. -/
def pieceOf (callId : String) : LiveEvent → Option String
  | .execCommandOutputDelta event _ =>
    if event.callId = callId then some (Utf8.fromUtf8Lossy event.chunk) else none
  | .terminalInteraction event _ =>
    if event.callId = callId then some (ActiveToolState.echo event.stdin) else none
  | _ => none

/-- All that the events add to it. -/
def piecesOf (callId : String) (events : List LiveEvent) : List String :=
  events.filterMap (pieceOf callId)

namespace LiveTools

variable {setting : Setting} {disk : FileSystem} {callId : String}

/-- A piece of output, as it is written to the terminal of a call. -/
def terminalWrite (callId data : String) : Shown.ToolCallUpdate :=
  { callId := callId, metadata := some (terminalOutputDeltaMeta callId data) }

/-- What is sent of the output of a command while it runs. -/
def written (setting : Setting) (callId : String) (command : Shown.ActiveCommand)
    (pieces : List String) : List Shown.ToolCallUpdate :=
  if supportsTerminalOutput setting command then pieces.map (terminalWrite callId) else []

theorem streamedUpdates_eq {command : Shown.ActiveCommand} (hkey : command.toolCallId = callId)
    (data : String) :
    streamedUpdates setting disk callId data command =
      (written setting callId command [data]).map .toolCallUpdate := by
  unfold streamedUpdates written
  dsimp only
  split
  next hsupports =>
    rw [hsupports, ← hkey]
    rfl
  next => rfl

theorem written_append (command : Shown.ActiveCommand) (pieces pieces' : List String) :
    written setting callId command (pieces ++ pieces') =
      written setting callId command pieces ++ written setting callId command pieces' := by
  unfold written
  split
  · exact List.map_append
  · rfl

/-- A piece of output is added to what there is, and written to the terminal. -/
theorem streamActiveCommandOutput_known {s : LiveTools} (hs : s.Keyed)
    {command : Shown.ActiveCommand} (hcommand : s.commands.lookup callId = some command)
    (data : String) :
    updatesOf callId (s.streamActiveCommandOutput setting disk callId data).1 =
        (written setting callId command [data]).map .toolCallUpdate ∧
      (s.streamActiveCommandOutput setting disk callId data).2.commands.lookup callId =
        some { command with output := command.output ++ data } := by
  have hall := @callId_streamActiveCommandOutput setting disk s hs callId data
  have hkey := hs callId command hcommand
  unfold streamActiveCommandOutput at hall ⊢
  rw [hcommand] at hall ⊢
  refine ⟨?_, AList.lookup_insert _⟩
  refine Eq.trans (List.filter_eq_self.mpr fun update hupdate =>
    decide_eq_true (hall update hupdate)) ?_
  exact @streamedUpdates_eq setting disk callId { command with output := command.output ++ data } hkey
    data

theorem handleLive_piece {event : LiveEvent} {data : String}
    (hpiece : pieceOf callId event = some data) {s : LiveTools} (hs : Apart callId s)
    {command : Shown.ActiveCommand} (hcommand : s.commands.lookup callId = some command) :
    updatesOf callId (handleLive setting event s).1 =
        (written setting callId command [data]).map .toolCallUpdate ∧
      (handleLive setting event s).2.commands.lookup callId =
        some { command with output := command.output ++ data } := by
  rw [← commands_completeBefore event.recorded] at hcommand
  have hkeyed := hs.keyed.completeBefore event.recorded
  rw [updatesOf_handleLive hs]
  cases event
  case execCommandOutputDelta event disk =>
    obtain ⟨rfl, hdata⟩ := Option.ite_none_right_eq_some.mp hpiece
    cases hdata
    exact streamActiveCommandOutput_known hkeyed hcommand _
  case terminalInteraction event disk =>
    obtain ⟨rfl, hdata⟩ := Option.ite_none_right_eq_some.mp hpiece
    cases hdata
    exact streamActiveCommandOutput_known hkeyed hcommand _
  all_goals cases hpiece

/-- **While a command runs**, its output is sent, and kept. -/
theorem updatesOf_sent_of_pieces {s : LiveTools} (hs : Apart callId s)
    {command : Shown.ActiveCommand} (hcommand : s.commands.lookup callId = some command)
    {events : List LiveEvent}
    (hevents : ∀ event ∈ events, eventCallId event = some callId →
      (pieceOf callId event).isSome = true) :
    updatesOf callId (sent setting events s) =
        (written setting callId command (piecesOf callId events)).map .toolCallUpdate ∧
      Apart callId ((handleLive setting).final s events) ∧
      ((handleLive setting).final s events).commands.lookup callId =
        some { command with output := command.output ++ String.join (piecesOf callId events) } := by
  induction events generalizing s command with
  | nil =>
    refine ⟨?_, hs, ?_⟩
    · unfold written
      split <;> rfl
    · rw [piecesOf, List.filterMap_nil, String.join_nil, String.append_empty]
      exact hcommand
  | cons event events ih =>
    obtain ⟨hevent, hevents⟩ := List.forall_mem_cons.mp hevents
    have hnext : Apart callId (handleLive setting event s).2 := by
      refine hs.handleLive fun heq => ?_
      subst heq
      cases hevent rfl
    rw [sent_cons, updatesOf_append, Transducer.final_cons]
    cases hpiece : pieceOf callId event with
    | none =>
      have hother : eventCallId event ≠ some callId := fun hid => by
        rw [hpiece] at hevent
        cases hevent hid
      obtain ⟨hupdates, hapart, hlookup⟩ := ih hnext
        ((lookup_handleLive_of_ne hother s).trans hcommand) hevents
      rw [updatesOf_handleLive_of_ne hs hother, List.nil_append]
      unfold piecesOf at hupdates hlookup ⊢
      rw [List.filterMap_cons_none hpiece]
      exact ⟨hupdates, hapart, hlookup⟩
    | some data =>
      obtain ⟨hnow, hkept⟩ := @handleLive_piece setting _ _ _ hpiece s hs command hcommand
      obtain ⟨hupdates, hapart, hlookup⟩ := ih hnext hkept hevents
      unfold piecesOf at hupdates hlookup ⊢
      rw [List.filterMap_cons_some hpiece, hnow, hupdates, hlookup]
      refine ⟨?_, hapart, ?_⟩
      · rw [← List.map_append]
        exact congrArg _ (written_append command [data] _).symm
      · rw [String.join_cons, String.append_assoc]

/-- A command that begins is given its tool call, and is known with no output. -/
theorem handleLive_execCommandBegin {s : LiveTools} (hs : Apart callId s)
    {event : ExecCommandBeginEvent} (hid : event.callId = callId) :
    let plan := Shown.execCommandBeginPlan setting.display.reader disk event
      (supportsTerminalOutput setting)
    updatesOf callId (handleLive setting (.execCommandBegin event disk) s).1 =
        [.toolCall plan.toolCall] ∧
      (handleLive setting (.execCommandBegin event disk) s).2.commands.lookup callId =
        some plan.activeCommand := by
  subst hid
  refine ⟨(updatesOf_handleLive hs _).trans (updatesOf_toolCall rfl), ?_⟩
  exact AList.lookup_insert _

/-- The updates of the end of a command. -/
def ended (setting : Setting) (disk : FileSystem) (event : ExecCommandEndEvent)
    (command : Shown.ActiveCommand) : List Shown.ToolCallUpdate :=
  let plan := Shown.execCommandEndPlan setting.display.reader disk event command
    (supportsTerminalOutput setting command)
  plan.streamingUpdate.toList ++ [plan.completionUpdate]

/-- The rest of the output is written to the terminal first. -/
theorem ended_eq {event : ExecCommandEndEvent} {command : Shown.ActiveCommand}
    (hkey : command.toolCallId = event.callId) :
    ended setting disk event command =
      written setting event.callId command
          (command.recorded.completionTerminalOutputDelta (Shown.execCompletionOutputSnapshot
            event.formattedOutput command event.aggregatedOutput)).toList ++
        [(Shown.execCommandEndPlan setting.display.reader disk event command
          (supportsTerminalOutput setting command)).completionUpdate] := by
  unfold ended
  refine congrArg (· ++ _) ?_
  unfold Shown.execCommandEndPlan written
  dsimp only
  split
  next hsupports =>
    rw [hsupports]
    cases command.recorded.completionTerminalOutputDelta _ with
    | none => rfl
    | some data =>
      show [Shown.ToolCallUpdate.mk _ _ _ _ _ _ _ _ _] = [_]
      rw [hkey]
      rfl
  next => rfl

theorem execCommandEnd_known {s : LiveTools} (hs : s.Keyed) (event : ExecCommandEndEvent)
    {command : Shown.ActiveCommand} (hcommand : s.commands.lookup event.callId = some command) :
    updatesOf event.callId (s.execCommandEnd setting event disk).1 =
        (ended setting disk event command).map .toolCallUpdate ∧
      (s.execCommandEnd setting event disk).2.commands.lookup event.callId = none := by
  have hall := @callId_execCommandEnd setting disk s hs event
  unfold execCommandEnd removeActiveCommand at hall ⊢
  rw [hcommand] at hall ⊢
  refine ⟨?_, AList.lookup_erase _ _⟩
  refine Eq.trans (List.filter_eq_self.mpr fun update hupdate =>
    decide_eq_true (hall update hupdate)) ?_
  unfold ended
  rw [List.map_append]
  rfl

/-- A command that ends is forgotten. -/
theorem handleLive_execCommandEnd {s : LiveTools} (event : ExecCommandEndEvent)
    (hs : Apart event.callId s) {command : Shown.ActiveCommand}
    (hcommand : s.commands.lookup event.callId = some command) :
    updatesOf event.callId (handleLive setting (.execCommandEnd event disk) s).1 =
        (ended setting disk event command).map .toolCallUpdate ∧
      (handleLive setting (.execCommandEnd event disk) s).2.commands.lookup event.callId = none := by
  rw [← commands_completeBefore (LiveEvent.execCommandEnd event disk).recorded] at hcommand
  rw [updatesOf_handleLive hs]
  exact execCommandEnd_known (hs.keyed.completeBefore _) event hcommand

end LiveTools

open LiveTools

section Run

variable {callId : String}

/-- The command begins and ends in the run, and only its output comes in between. -/
def RunsCommand (begin' : ExecCommandBeginEvent) (diskBegin : FileSystem)
    (middle : List LiveEvent) (end' : ExecCommandEndEvent) (diskEnd : FileSystem)
    (events : List LiveEvent) : Prop :=
  ∃ before after, events = before ++ .execCommandBegin begin' diskBegin ::
      (middle ++ .execCommandEnd end' diskEnd :: after) ∧
    begin'.callId = end'.callId ∧ .webSearchBegin end'.callId ∉ before ∧
    (∀ event ∈ middle, eventCallId event = some end'.callId →
      (pieceOf end'.callId event).isSome = true) ∧
    Unmentioned end'.callId after

/-- How a command begins, for the editor. -/
def beginPlan (setting : LiveTools.Setting) (disk : FileSystem) (event : ExecCommandBeginEvent) :
    Shown.ExecCommandBeginPlan :=
  Shown.execCommandBeginPlan setting.display.reader disk event (supportsTerminalOutput setting)

/-- The command with all it put out. -/
def ranCommand (setting : LiveTools.Setting) (disk : FileSystem) (begin' : ExecCommandBeginEvent)
    (output : String) : Shown.ActiveCommand :=
  { (beginPlan setting disk begin').activeCommand with output := output }

/-- What is shown of a command that ended, on the disk as it was when it began and when it
ended. -/
def commandRow (setting : LiveTools.Setting) (diskBegin : FileSystem)
    (begin' : ExecCommandBeginEvent) (output : String) (diskEnd : FileSystem)
    (end' : ExecCommandEndEvent) : Row :=
  let call := (beginPlan setting diskBegin begin').toolCall
  let command := ranCommand setting diskBegin begin' output
  let status := execCompletionStatus end'.status end'.exitCode
  let snapshot :=
    Shown.execCompletionOutputSnapshot end'.formattedOutput command end'.aggregatedOutput
  { title := call.title
    kind := call.kind
    status := status
    content := command.renderCompletionContent setting.display.reader diskEnd end'.callId
      (supportsTerminalOutput setting command) snapshot end'.exitCode status
    locations := call.locations }

/-- What goes to the terminal changes nothing of the row. -/
theorem foldl_written (setting : LiveTools.Setting) (command : Shown.ActiveCommand)
    (pieces : List String) (row : Row) :
    (written setting callId command pieces).foldl (fun row part => part.act row) row = row := by
  unfold written
  split
  · induction pieces with
    | nil => rfl
    | cons data pieces ih => exact ih
  · rfl

/-- Nor does the rest of the output. -/
theorem foldl_ended (setting : LiveTools.Setting) (disk : FileSystem)
    (event : ExecCommandEndEvent) (command : Shown.ActiveCommand) (row : Row) :
    (ended setting disk event command).foldl (fun row part => part.act row) row =
      (Shown.execCommandEndPlan setting.display.reader disk event command
        (supportsTerminalOutput setting command)).completionUpdate.act row := by
  unfold ended Shown.execCommandEndPlan
  dsimp only
  rw [List.foldl_append]
  refine congrArg (Shown.ToolCallUpdate.act _) ?_
  split
  next hsupports =>
    rw [hsupports]
    cases command.recorded.completionTerminalOutputDelta _ <;> rfl
  next => rfl

/-- What the editor is sent of a command in the end: its tool call, its output and its end. -/
theorem updatesOf_sent_of_runs {setting : LiveTools.Setting} {begin' : ExecCommandBeginEvent}
    {diskBegin : FileSystem} {middle : List LiveEvent} {end' : ExecCommandEndEvent}
    {diskEnd : FileSystem} {events : List LiveEvent}
    (h : RunsCommand begin' diskBegin middle end' diskEnd events) :
    ∃ earlier, updatesOf end'.callId (sent setting events {}) =
      earlier ++ .toolCall (beginPlan setting diskBegin begin').toolCall ::
        (written setting end'.callId (beginPlan setting diskBegin begin').activeCommand
            (piecesOf end'.callId middle) ++
          ended setting diskEnd end' (ranCommand setting diskBegin begin'
            (String.join (piecesOf end'.callId middle)))).map .toolCallUpdate := by
  obtain ⟨before, after, rfl, hid, hsearch, hmiddle, hafter⟩ := h
  have hbefore := @Apart.final setting _ _ (apart_empty end'.callId) _ hsearch
  have hbegun := @Apart.handleLive setting _ _ hbefore (.execCommandBegin begin' diskBegin) nofun
  obtain ⟨hcall, hknown⟩ := @handleLive_execCommandBegin setting diskBegin _ _ hbefore begin' hid
  obtain ⟨hpieces, hmid, hkept⟩ := @updatesOf_sent_of_pieces setting _ _ hbegun _ hknown _ hmiddle
  have hran : _ = some (ranCommand setting diskBegin begin'
      (String.join (piecesOf end'.callId middle))) :=
    hkept.trans (congrArg (fun output => some (ranCommand setting diskBegin begin' output))
      String.empty_append)
  obtain ⟨hend, -⟩ := @handleLive_execCommandEnd setting diskEnd _ end' hmid _ hran
  have hended := @Apart.handleLive setting _ _ hmid (.execCommandEnd end' diskEnd) nofun
  refine ⟨updatesOf end'.callId (sent setting before {}), ?_⟩
  rw [sent_append, sent_cons, sent_append, sent_cons]
  simp only [updatesOf_append]
  rw [hcall, hpieces, hend, updatesOf_sent hended hafter, List.append_nil, List.map_append]
  rfl

/-- **A command** is shown, in any run in which it runs, by what it began as, all it put out and
how it ended. -/
theorem command_shown (setting : LiveTools.Setting) {begin' : ExecCommandBeginEvent}
    {diskBegin : FileSystem} {middle : List LiveEvent} {end' : ExecCommandEndEvent}
    {diskEnd : FileSystem} {events : List LiveEvent}
    (h : RunsCommand begin' diskBegin middle end' diskEnd events) :
    (shown (sent setting events {})).lookup end'.callId =
      some (commandRow setting diskBegin begin' (String.join (piecesOf end'.callId middle))
        diskEnd end') := by
  obtain ⟨earlier, hsent⟩ := @updatesOf_sent_of_runs setting _ _ _ _ _ _ h
  rw [shown_of_updates hsent, List.foldl_append, foldl_written, foldl_ended]
  rfl

/-- For concrete runs: a command that is typed to. -/
def sampleCommandBegin : ExecCommandBeginEvent :=
  { callId := "call", cwd := "/work", parsedCmd := [.unknown "make"] }

def sampleTyped : LiveEvent :=
  .terminalInteraction { callId := "call", stdin := "y" } (.ofFiles [])

def sampleCommandEnd : ExecCommandEndEvent :=
  { callId := "call", exitCode := 0, aggregatedOutput := "", formattedOutput := ""
    status := .completed }

/-- It is shown with the echo of what was typed. -/
theorem command_shown_typed :
    (shown (sent LiveTools.Setting.sample [.execCommandBegin sampleCommandBegin (.ofFiles []),
        sampleTyped, .execCommandEnd sampleCommandEnd (.ofFiles [("y", "made")])] {})).lookup
        "call" =
      some (commandRow .sample (.ofFiles []) sampleCommandBegin "\ny\n"
        (.ofFiles [("y", "made")]) sampleCommandEnd) := by
  have hruns : RunsCommand sampleCommandBegin (.ofFiles []) [sampleTyped] sampleCommandEnd
      (.ofFiles [("y", "made")]) [.execCommandBegin sampleCommandBegin (.ofFiles []),
        sampleTyped, .execCommandEnd sampleCommandEnd (.ofFiles [("y", "made")])] :=
    ⟨[], [], rfl, rfl, List.not_mem_nil, List.forall_mem_singleton.mpr fun _ => rfl,
      List.forall_mem_nil _⟩
  exact command_shown LiveTools.Setting.sample hruns

end Run

end CodexAcp.Thread
