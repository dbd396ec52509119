import CodexAcp.Lib.Sorted
import CodexAcp.Thread.HeldTools
import CodexAcp.Thread.ShownCommands

/-!
# The background tasks

`/ps` lists what runs, over all submissions the actor holds. It reads the commands and the
web searches that the submissions keep in their hash maps, and sorts the lines.

> `backgroundTasks_listed`: in every run the lines are, in their order, those of the commands
> that began or were asked about and have not ended since, each under the title it was last
> given, and of the web searches that go on; whatever came in between, and in whatever order
> the submissions are gone through. What a submission ran is forgotten when it is collected,
> ended or not.
-/

namespace CodexAcp.Thread

open CodexAcp.Lib CodexAcp.Protocol CodexAcp.Boundary CodexAcp.Boundary.Shown

def webSearchLine : String := "- Searching the Web"

def commandLine (title callId : String) : String := "- " ++ title ++ " (" ++ callId ++ ")"

/-- The lines of a submission. -/
def LiveTools.activeCommandSummaries (s : LiveTools) : List String :=
  let summaries := (Dict.values s.commands).map fun command =>
    commandLine command.title command.toolCallId
  sortOn id (if s.webSearch.isSome then summaries ++ [webSearchLine] else summaries)

/-- The lines of all submissions. -/
def activeCommandSummaries (submissions : List LiveTools) : List String :=
  submissions.flatMap LiveTools.activeCommandSummaries

def activeCommandCount (submissions : List LiveTools) : Nat :=
  (activeCommandSummaries submissions).length

def tasksText (tasks : List String) : String :=
  if tasks.isEmpty then "No background tool calls are currently running."
  else "Active tool calls:\n" ++ "\n".intercalate tasks

def backgroundTasksSummary (submissions : List LiveTools) : String :=
  tasksText (sortOn id (activeCommandSummaries submissions))

/-! ## What runs -/

section Runs

variable (setting : LiveTools.Setting) (callId : String)

/-- What an event says of a command: it runs under a title, or no longer. -/
def titleSaid : LiveEvent → Option (Option String)
  | .execApprovalRequest event disk =>
    if event.callId = callId then
      match execApprovalContent setting.codex event with
      -- It could not be asked about.
      | .error _ => none
      | .ok () => some (some (LiveTools.approvalCommand setting event disk).title)
    else none
  | .execCommandBegin event disk =>
    if event.callId = callId then some (some (beginPlan setting disk event).activeCommand.title)
    else none
  | .execCommandEnd event _ => if event.callId = callId then some none else none
  | _ => none

/-- The title of a command, if it runs: what was said of it last. -/
def runningTitle (events : List LiveEvent) : Option String :=
  (events.filterMap (titleSaid setting callId)).getLast?.getD none

/-- What an event says of web searches: one goes on, or no longer. -/
def searchSaid (event : LiveEvent) : Option Bool :=
  match event with
  | .webSearchBegin _ => some true
  | event => if completesActiveWebSearchBefore event.recorded then some false else none

/-- Whether a web search goes on. -/
def searching (events : List LiveEvent) : Bool := (events.filterMap searchSaid).getLast?.getD false

/-- The lines of what runs. -/
def runningLines (events : List LiveEvent) : List String :=
  ((events.filterMap eventCallId).dedup.filterMap fun callId =>
    (runningTitle setting callId events).map (commandLine · callId)) ++
      if searching events then [webSearchLine] else []

end Runs

namespace LiveTools

variable {setting : Setting} {disk : FileSystem} {callId : String}

/-- A command that is put in has its title, and the others keep theirs. -/
theorem title_insert (callId' : String) (command : Shown.ActiveCommand) (s : LiveTools) :
    ((s.insertActiveCommand callId' command).commands.lookup callId).map (·.title) =
      (if callId' = callId then some (some command.title) else none).getD
        ((s.commands.lookup callId).map (·.title)) := by
  by_cases hid : callId' = callId
  · have hlookup : (s.insertActiveCommand callId' command).commands.lookup callId' =
        some command := AList.lookup_insert s.commands
    rw [if_pos hid, ← hid, hlookup]
    rfl
  · rw [if_neg hid]
    exact congrArg (Option.map _) (AList.lookup_insert_ne (Ne.symm hid))

theorem title_streamActiveCommandOutput (callId' data : String) (s : LiveTools) :
    ((s.streamActiveCommandOutput setting disk callId' data).2.commands.lookup callId).map (·.title) =
      (s.commands.lookup callId).map (·.title) := by
  unfold streamActiveCommandOutput
  split
  next => rfl
  next command hcommand =>
    refine (title_insert callId' _ s).trans ?_
    by_cases hid : callId' = callId
    · rw [if_pos hid, ← hid, hcommand]
      rfl
    · rw [if_neg hid, Option.getD_none]

theorem title_execCommandEnd (event : ExecCommandEndEvent) (s : LiveTools) :
    ((s.execCommandEnd setting event disk).2.commands.lookup callId).map (·.title) =
      (if event.callId = callId then some none else none).getD
        ((s.commands.lookup callId).map (·.title)) := by
  have herase : (s.execCommandEnd setting event disk).2.commands = s.commands.erase event.callId := by
    unfold execCommandEnd
    split
    next hremove => exact congrArg (·.2.commands) hremove.symm
    next hremove => exact congrArg (·.2.commands) hremove.symm
  rw [herase]
  by_cases hid : event.callId = callId
  · rw [if_pos hid, ← hid, AList.lookup_erase]
    rfl
  · rw [if_neg hid, AList.lookup_erase_ne (Ne.symm hid), Option.getD_none]

/-- The title of a command, as an event leaves it. -/
theorem title_handleLive (event : LiveEvent) (s : LiveTools) :
    ((handleLive setting event s).2.commands.lookup callId).map (·.title) =
      (titleSaid setting callId event).getD ((s.commands.lookup callId).map (·.title)) := by
  show (((s.completeBefore event.recorded).2.handleRouted setting event).2.commands.lookup
    callId).map _ = _
  rw [← commands_completeBefore event.recorded s]
  generalize (s.completeBefore event.recorded).2 = s
  cases event
  case execApprovalRequest event disk =>
    show ((s.execApproval setting event disk).commands.lookup callId).map _ = _
    unfold execApproval
    simp only [titleSaid]
    cases execApprovalContent setting.codex event with
    | error err => rw [ite_self, Option.getD_none]
    | ok content => exact title_insert event.callId _ s
  case execCommandBegin event disk => exact title_insert event.callId _ s
  case execCommandOutputDelta event disk => exact title_streamActiveCommandOutput _ _ s
  case terminalInteraction event disk => exact title_streamActiveCommandOutput _ _ s
  case execCommandEnd event disk => exact title_execCommandEnd event s
  all_goals rfl

/-- Only the begin of a web search is a web search that goes on. -/
theorem webSearch_handleRouted (event : LiveEvent) (s : LiveTools) :
    (s.handleRouted setting event).2.webSearch =
      if let .webSearchBegin callId := event then some callId else s.webSearch := by
  cases event
  case execApprovalRequest event disk =>
    show (s.execApproval setting event disk).webSearch = _
    unfold execApproval
    split <;> rfl
  case execCommandOutputDelta event disk =>
    show (s.streamActiveCommandOutput setting _ _ _).2.webSearch = _
    unfold streamActiveCommandOutput
    split <;> rfl
  case terminalInteraction event disk =>
    show (s.streamActiveCommandOutput setting _ _ _).2.webSearch = _
    unfold streamActiveCommandOutput
    split <;> rfl
  case execCommandEnd event disk =>
    show (s.execCommandEnd setting event disk).2.webSearch = _
    unfold execCommandEnd removeActiveCommand
    split
    next hremoved => exact (congrArg (·.2.webSearch) hremoved).symm
    next hremoved => exact (congrArg (·.2.webSearch) hremoved).symm
  all_goals rfl

/-- Whether a web search goes on, as an event leaves it. -/
theorem searching_handleLive (event : LiveEvent) (s : LiveTools) :
    (handleLive setting event s).2.webSearch.isSome =
      (searchSaid event).getD s.webSearch.isSome := by
  have hcompleted : (s.completeBefore event.recorded).2.webSearch.isSome =
      (if completesActiveWebSearchBefore event.recorded then some false else none).getD
        s.webSearch.isSome := by
    unfold completeBefore completeWebSearch
    split <;> rfl
  show ((s.completeBefore event.recorded).2.handleRouted setting event).2.webSearch.isSome = _
  rw [webSearch_handleRouted]
  cases event
  case webSearchBegin => rfl
  all_goals exact hcompleted

/-! ## Runs -/

theorem title_final (events : List LiveEvent) :
    (((handleLive setting).final {} events).commands.lookup callId).map (·.title) =
      runningTitle setting callId events :=
  Transducer.part_final (fun s : LiveTools => (s.commands.lookup callId).map (·.title))
    title_handleLive {} events

theorem searching_final (events : List LiveEvent) :
    ((handleLive setting).final {} events).webSearch.isSome = searching events :=
  Transducer.part_final (fun s : LiveTools => s.webSearch.isSome)
    searching_handleLive {} events

end LiveTools

/-! ## The listing -/

variable {setting : LiveTools.Setting}

/-- A command that runs is what an event was about. -/
theorem mem_dedup_of_lookup {events : List LiveEvent} {callId : String}
    {command : Shown.ActiveCommand}
    (h : ((LiveTools.handleLive setting).final {} events).commands.lookup callId = some command) :
    callId ∈ (events.filterMap eventCallId).dedup := by
  by_contra hmem
  rw [List.mem_dedup, List.mem_filterMap] at hmem
  have hunmentioned : Unmentioned callId events := fun event hevent hid => hmem ⟨event, hevent, hid⟩
  rw [LiveTools.lookup_final hunmentioned] at h
  cases h

/-- The line of a command, from what was said of it. -/
theorem commandLine_final (events : List LiveEvent) (callId : String) :
    (((LiveTools.handleLive setting).final {} events).commands.lookup callId).map
        (fun command => commandLine command.title command.toolCallId) =
      (runningTitle setting callId events).map (commandLine · callId) := by
  rw [← LiveTools.title_final, Option.map_map]
  refine Option.map_congr fun command hcommand => ?_
  have hkey : command.toolCallId = callId :=
    LiveTools.keyed_empty.final events callId command hcommand
  rw [hkey]
  rfl

/-- The lines of a submission are those of what runs. -/
theorem activeCommandSummaries_perm (setting : LiveTools.Setting) (events : List LiveEvent) :
    ((LiveTools.handleLive setting).final {} events).activeCommandSummaries.Perm
      (runningLines setting events) := by
  have hcommands : ((Dict.values ((LiveTools.handleLive setting).final {} events).commands).map
      fun command => commandLine command.title command.toolCallId).Perm
      ((events.filterMap eventCallId).dedup.filterMap fun callId =>
        (runningTitle setting callId events).map (commandLine · callId)) := by
    refine ((Dict.values_perm_filterMap (List.nodup_dedup _)
      fun callId command h => mem_dedup_of_lookup h).map _).trans ?_
    rw [List.map_filterMap]
    exact .of_eq (List.filterMap_congr fun callId _ => commandLine_final events callId)
  refine (sortOn_perm id _).trans ?_
  unfold runningLines
  rw [LiveTools.searching_final]
  cases searching events with
  | false => simpa using hcommands
  | true => exact hcommands.append_right [webSearchLine]

/-- **The background tasks.** However the submissions come, what is listed is what runs. -/
theorem backgroundTasks_listed {config : Config} {models : ModelsManager} {labels : List ToolLabel}
    {t : Tooled} (hrun : exec (Tooled.step setting) (.start config models) labels = some t)
    {submissions : List LiveTools} (horder : submissions.Perm (Dict.values t.tools)) :
    t.Held ∧
      backgroundTasksSummary submissions =
        tasksText (sortOn id ((Dict.values t.history).flatMap (runningLines setting))) ∧
      activeCommandCount submissions =
        ((Dict.values t.history).flatMap (runningLines setting)).length := by
  have hlines : (activeCommandSummaries submissions).Perm
      ((Dict.values t.history).flatMap (runningLines setting)) := by
    refine (horder.flatMap_right _).trans ?_
    rw [Tooled.tools_of_run hrun, Dict.values_mapValues, List.flatMap_map]
    exact List.Perm.flatMap_left _ fun events _ => activeCommandSummaries_perm setting events
  exact ⟨Tooled.held_of_run hrun, congrArg tasksText (sortOn_id_eq_of_perm hlines),
    hlines.length_eq⟩

/-- For concrete runs: a prompt, and an event of its submission. -/
def samplePrompted (submissionId : String) (event : LiveEvent) : List ToolLabel :=
  [.other ⟨.message (.prompt ⟨[.text "go"]⟩), rfl⟩, .other ⟨.collect, rfl⟩,
   .other ⟨.noResolution, rfl⟩, .event submissionId event, .other ⟨.collect, rfl⟩]

/-- Two commands and a web search; the turn of the second command is over before it is. -/
def sampleToolRun : List ToolLabel :=
  samplePrompted "submission-0" (.execCommandBegin sampleCommandBegin (.ofFiles [])) ++
    samplePrompted "submission-1" (.webSearchBegin "search") ++
    samplePrompted "submission-2" (.execCommandBegin sampleCommandBegin (.ofFiles [])) ++
    [.other ⟨.noResolution, rfl⟩, .event "submission-2" (.other ⟨.turnComplete ⟨"turn"⟩, rfl⟩),
     .other ⟨.collect, rfl⟩]

/-- The submissions that are left come in the other order. -/
theorem backgroundTasks_listed_collected :
    ∃ t, exec (Tooled.step .sample) (.start Config.sample ModelsManager.sample) sampleToolRun =
        some t ∧ t.Held ∧
      backgroundTasksSummary (Dict.values t.tools).reverse =
        tasksText (sortOn id ((Dict.values t.history).flatMap (runningLines .sample))) ∧
      activeCommandCount (Dict.values t.tools).reverse =
        ((Dict.values t.history).flatMap (runningLines .sample)).length := by
  have hruns : (exec (Tooled.step .sample) (.start Config.sample ModelsManager.sample)
      sampleToolRun).isSome := rfl
  obtain ⟨t, hrun⟩ := Option.isSome_iff_exists.mp hruns
  exact ⟨t, hrun, backgroundTasks_listed hrun (List.reverse_perm _)⟩

end CodexAcp.Thread
