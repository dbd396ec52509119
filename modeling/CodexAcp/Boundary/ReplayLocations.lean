import CodexAcp.Boundary.ReplayedToolCall

/-!
# Where replayed tool calls are

The editor opens the files a tool call names, so it is given absolute paths. A
command names its paths from the directory it ran in: the working directory of
the call, which may itself be given from the directory of the session. A patch
names them from the directory of the session.

A patch is joined to that directory. A command is not: the working directory of
its call is taken as it is.

> `parseCommandToolCall_locations`: the locations of a command are the paths its
> stages name, joined to the directory it is taken to run in.
> `replayed_locations_iff`: the locations of a replayed item are absolute and in
> the right directory, unless a relative working directory meets a relative path.
-/

namespace CodexAcp.Boundary.Command

open CodexAcp.Lib CodexAcp.Protocol

/-! ## The paths of a command -/

/-- What a stage names, where `paths` says what an unknown one does. -/
def stagePaths (paths : String → Option (List String)) : ParsedCommand → Option (List String)
  | .read _ _ path => some [path]
  | .listFiles _ path => some path.toList
  | .search _ _ _ => some []
  | .unknown cmd => paths cmd

def stagesPaths (paths : String → Option (List String)) :
    List ParsedCommand → Option (List String)
  | [] => some []
  | cmd :: parsedCmd => do some ((← stagePaths paths cmd) ++ (← stagesPaths paths parsedCmd))

section Parsers

variable (shlexSplit : String → Option (List String))
variable (parseCommand : List String → List ParsedCommand)
variable (fs : FileSystem)

/-- A file that is read; it is looked for from `cwd`. -/
def fallbackPaths (cmd cwd : String) : List String :=
  if isGitDiffCommand shlexSplit cmd || isSearchCommand shlexSplit cmd then []
  else (fileReadPathFromUnknownCommand shlexSplit fs cmd cwd).toList

def unknownCommandPaths : Nat → String → String → Option (List String)
  | 0, _, _ => none
  | fuel + 1, cmd, cwd =>
    match reparseUnknownCommand shlexSplit parseCommand cmd with
    | some parsedCmd => stagesPaths (fun cmd => unknownCommandPaths fuel cmd cwd) parsedCmd
    | none => some (fallbackPaths shlexSplit fs cmd cwd)

/-- The paths the stages of a command name, as they name them. -/
def commandPaths (fuel : Nat) (parsedCmd : List ParsedCommand) (cwd : String) :
    Option (List String) :=
  stagesPaths (fun cmd => unknownCommandPaths shlexSplit parseCommand fs fuel cmd cwd) parsedCmd

end Parsers

/-! ## Their locations -/

theorem toolCallLocation_eq_join (cwd path : String) :
    toolCallLocation cwd path = Path.join cwd path := by
  unfold toolCallLocation
  split
  next habsolute => exact (Path.join_of_isAbsolute habsolute cwd).symm
  next => rfl

theorem map_toolCallLocation (cwd : String) (paths : List String) :
    paths.map (toolCallLocation cwd) = paths.map (Path.join cwd) :=
  List.map_congr_left fun path _ => toolCallLocation_eq_join cwd path

/-- One more stage. -/
theorem addStage_locations {unknown : String → Option ParseCommandToolCall}
    {paths : String → Option (List String)} {cwd : String}
    (hunknown : ∀ cmd, (unknown cmd).map ParseCommandToolCall.locations =
      (paths cmd).map (List.map (Path.join cwd)))
    (stages : Stages) (cmd : ParsedCommand) :
    (Stages.addStage unknown cwd stages cmd).map Stages.locations =
      (stagePaths paths cmd).map fun named =>
        stages.locations ++ named.map (Path.join cwd) := by
  cases cmd with
  | read cmd name path =>
    show some (stages.locations ++ [toolCallLocation cwd path]) = _
    rw [toolCallLocation_eq_join]
    rfl
  | listFiles cmd path =>
    show some (stages.locations ++ path.toList.map (toolCallLocation cwd)) = _
    rw [map_toolCallLocation]
    rfl
  | search cmd query path =>
    show some stages.locations = some (stages.locations ++ [])
    rw [List.append_nil]
  | unknown cmd =>
    show ((unknown cmd).map stages.appendToolCall).map Stages.locations =
      (paths cmd).map _
    have happended : ∀ toolCall : ParseCommandToolCall,
        (stages.appendToolCall toolCall).locations = stages.locations ++ toolCall.locations :=
      fun _ => rfl
    have hcmd := congrArg (Option.map (stages.locations ++ ·)) (hunknown cmd)
    rw [Option.map_map, Option.map_map] at hcmd
    rw [Option.map_map]
    exact hcmd

/-- Stage by stage. -/
theorem foldlM_locations {unknown : String → Option ParseCommandToolCall}
    {paths : String → Option (List String)} {cwd : String}
    (hunknown : ∀ cmd, (unknown cmd).map ParseCommandToolCall.locations =
      (paths cmd).map (List.map (Path.join cwd)))
    (parsedCmd : List ParsedCommand) (stages : Stages) :
    (parsedCmd.foldlM (Stages.addStage unknown cwd) stages).map Stages.locations =
      (stagesPaths paths parsedCmd).map fun named =>
        stages.locations ++ named.map (Path.join cwd) := by
  induction parsedCmd generalizing stages with
  | nil =>
    show some stages.locations = some (stages.locations ++ [])
    rw [List.append_nil]
  | cons cmd parsedCmd ih =>
    have hstage := addStage_locations hunknown stages cmd
    rw [List.foldlM_cons, stagesPaths]
    cases hnamed : stagePaths paths cmd with
    | none =>
      rw [hnamed, Option.map_none, Option.map_eq_none_iff] at hstage
      rw [hstage]
      rfl
    | some named =>
      rw [hnamed, Option.map_some] at hstage
      obtain ⟨next, hnext, hlocations⟩ := Option.map_eq_some_iff.mp hstage
      rw [hnext, Option.bind_eq_bind, Option.bind_some, ih next, hlocations]
      cases stagesPaths paths parsedCmd with
      | none => rfl
      | some rest =>
        have happend : stages.locations ++ named.map (Path.join cwd) ++ rest.map (Path.join cwd) =
            stages.locations ++ (named ++ rest).map (Path.join cwd) := by
          rw [List.append_assoc, List.map_append]
        exact congrArg some happend

theorem stagesToolCall_locations {unknown : String → Option ParseCommandToolCall}
    {paths : String → Option (List String)} {cwd : String}
    (hunknown : ∀ cmd, (unknown cmd).map ParseCommandToolCall.locations =
      (paths cmd).map (List.map (Path.join cwd)))
    (parsedCmd : List ParsedCommand) :
    (stagesToolCall unknown cwd parsedCmd).map ParseCommandToolCall.locations =
      (stagesPaths paths parsedCmd).map (List.map (Path.join cwd)) := by
  unfold stagesToolCall
  rw [Option.map_map]
  exact foldlM_locations hunknown parsedCmd {}

section Parsers

variable {shlexSplit : String → Option (List String)}
variable {parseCommand : List String → List ParsedCommand}
variable {fs : FileSystem}

theorem fallbackToolCall_locations (cmd cwd : String) :
    (fallbackToolCall shlexSplit fs cmd cwd).locations =
      (fallbackPaths shlexSplit fs cmd cwd).map (Path.join cwd) := by
  unfold fallbackToolCall fallbackPaths
  cases isGitDiffCommand shlexSplit cmd with
  | true => rfl
  | false =>
    cases isSearchCommand shlexSplit cmd with
    | true => rfl
    | false =>
      cases fileReadPathFromUnknownCommand shlexSplit fs cmd cwd with
      | none => rfl
      | some path =>
        show [toolCallLocation cwd path] = [Path.join cwd path]
        rw [toolCallLocation_eq_join]

theorem parseUnknownCommandToolCall_locations (fuel : Nat) (cmd cwd : String) :
    (parseUnknownCommandToolCall shlexSplit parseCommand fs fuel cmd cwd).map
        ParseCommandToolCall.locations =
      (unknownCommandPaths shlexSplit parseCommand fs fuel cmd cwd).map
        (List.map (Path.join cwd)) := by
  induction fuel generalizing cmd with
  | zero => rfl
  | succ fuel ih =>
    unfold parseUnknownCommandToolCall unknownCommandPaths
    cases reparseUnknownCommand shlexSplit parseCommand cmd with
    | none => exact congrArg some (fallbackToolCall_locations cmd cwd)
    | some parsedCmd => exact stagesToolCall_locations ih parsedCmd

/-- **The locations of a command** are the paths its stages name, in their order, from the
directory it is taken to run in. -/
theorem parseCommandToolCall_locations (fuel : Nat) (parsedCmd : List ParsedCommand)
    (cwd : String) :
    (parseCommandToolCall shlexSplit parseCommand fs fuel parsedCmd cwd).map
        ParseCommandToolCall.locations =
      (commandPaths shlexSplit parseCommand fs fuel parsedCmd cwd).map
        (List.map (Path.join cwd)) :=
  stagesToolCall_locations
    (fun cmd => parseUnknownCommandToolCall_locations fuel cmd cwd) parsedCmd

end Parsers

end CodexAcp.Boundary.Command

namespace CodexAcp.Boundary.Replayed

open CodexAcp.Lib CodexAcp.Protocol

/-! ## The paths of an item -/

/-- The command of a shell call and its working directory, if both can be read. -/
def shellCall (parsers : Parsers) : ResponseItem → Option (List String × Option String)
  | .functionCall name arguments _ =>
    if isReplayShellTool name then parseReplayShellArgs parsers name arguments else none
  | .localShellCall (some _) exec _ => some (exec.command, exec.workingDirectory)
  | _ => none

def workdir (parsers : Parsers) (item : ResponseItem) : Option String :=
  (shellCall parsers item).bind Prod.snd

/-- Where a path of a patch leads: to the file, or to where it is moved. -/
def Hunk.target : Hunk → String
  | addFile path _ | deleteFile path => path
  | updateFile path movePath _ => movePath.getD path

/-- The files of a patch, if it can be read. -/
def patchPaths (parsers : Parsers) : ResponseItem → List String
  | .customToolCall "apply_patch" input _ => ((parsers.patch input).getD []).map Hunk.target
  | _ => []

/-- The paths an item names, as it names them. Whether a word is a file is asked of the
directory the command is taken to run in. -/
def namedPaths (parsers : Parsers) (fuel : Nat) (cwd : String) (item : ResponseItem) :
    Option (List String) :=
  match shellCall parsers item with
  | some (command, workdir) =>
    Command.commandPaths parsers.shlexSplit parsers.command parsers.fs fuel
      (parsers.command command) (workdir.getD cwd)
  | none => some (patchPaths parsers item)

/-- The directory an item names its paths from. -/
def callDirectory (parsers : Parsers) (cwd : String) (item : ResponseItem) : String :=
  match workdir parsers item with
  | some workdir => Path.join cwd workdir
  | none => cwd

def ReplayResponseItemPlan.locations : ReplayResponseItemPlan → List String
  | effect (.toolCall call) => call.locations
  | effect (.toolCallUpdate _) | ignore _ => []

/-- Whatever an item is shown as, its locations are absolute, and they are the paths it names
from the directory it names them from. -/
def LocationsLive (parsers : Parsers) (cwd : String) (item : ResponseItem) : Prop :=
  ∀ uuid fuel plan,
    replayResponseItemPlan parsers uuid fuel cwd (routeReplayResponseItem item) = some plan →
      (∀ location ∈ plan.locations, Path.isAbsolute location = true) ∧
      ∃ paths, namedPaths parsers fuel cwd item = some paths ∧
        plan.locations = paths.map (Path.join (callDirectory parsers cwd item))

/-! ## What is shown -/

section Plan

variable {parsers : Parsers}

theorem destPath_eq_join (cwd : String) (hunk : Hunk) :
    hunk.destPath cwd = Path.join cwd hunk.target := by
  cases hunk with
  | updateFile path movePath chunks => cases movePath <;> rfl
  | _ => rfl

theorem shownCommand_locations (fuel : Nat) (command : List String) (commandCwd : String) :
    (shownCommand parsers fuel command commandCwd).map Command.ParseCommandToolCall.locations =
      (Command.commandPaths parsers.shlexSplit parsers.command parsers.fs fuel
        (parsers.command command) commandCwd).map (List.map (Path.join commandCwd)) :=
  Command.parseCommandToolCall_locations fuel _ commandCwd

/-- A shell call is shown with the paths of its command, joined to its working directory as it
is. -/
theorem plan_locations_shell {item : ResponseItem} {command : List String}
    {workdir : Option String} (hcall : shellCall parsers item = some (command, workdir))
    (uuid : String) (fuel : Nat) (cwd : String) :
    (replayResponseItemPlan parsers uuid fuel cwd (routeReplayResponseItem item)).map
        ReplayResponseItemPlan.locations =
      (namedPaths parsers fuel cwd item).map (List.map (Path.join (workdir.getD cwd))) := by
  unfold namedPaths
  rw [hcall]
  dsimp only
  rw [← shownCommand_locations]
  cases item with
  | functionCall name arguments callId =>
    unfold shellCall at hcall
    dsimp only at hcall
    split at hcall
    next hshell =>
      rw [routeReplayResponseItem_functionCall, if_pos hshell]
      show (Option.map _ (replayShellFunctionCallToolCall parsers fuel callId name arguments
        cwd)).map _ = _
      unfold replayShellFunctionCallToolCall
      rw [hcall]
      dsimp only
      rw [Option.map_map, Option.map_map]
      rfl
    next => exact absurd hcall nofun
  | localShellCall callId exec status =>
    cases callId with
    | none => exact absurd hcall nofun
    | some callId =>
      cases hcall
      show (Option.map _ (replayLocalShellCallToolCall parsers fuel callId exec.command
        exec.workingDirectory _ cwd)).map _ = _
      unfold replayLocalShellCallToolCall
      rw [Option.map_map, Option.map_map]
      rfl
  | _ => exact absurd hcall nofun

/-- What is no shell call is shown with the files of its patch. -/
theorem plan_locations_other {item : ResponseItem} (hcall : shellCall parsers item = none)
    (uuid : String) (fuel : Nat) (cwd : String) :
    (replayResponseItemPlan parsers uuid fuel cwd (routeReplayResponseItem item)).map
        ReplayResponseItemPlan.locations =
      some ((patchPaths parsers item).map (Path.join cwd)) := by
  cases item with
  | functionCall name arguments callId =>
    rw [routeReplayResponseItem_functionCall]
    split
    next hshell =>
      unfold shellCall at hcall
      dsimp only at hcall
      rw [if_pos hshell] at hcall
      show (Option.map _ (replayShellFunctionCallToolCall parsers fuel callId name arguments
        cwd)).map _ = _
      unfold replayShellFunctionCallToolCall
      rw [hcall]
      rfl
    next => rfl
  | customToolCall name input callId =>
    rw [routeReplayResponseItem_customToolCall]
    by_cases hpatch : name = "apply_patch"
    · subst hpatch
      rw [if_pos rfl]
      show some (Option.getD (replayApplyPatchToolCall parsers callId input cwd) _).locations =
        some ((((parsers.patch input).getD []).map Hunk.target).map (Path.join cwd))
      unfold replayApplyPatchToolCall parseReplayApplyPatchCall
      cases parsers.patch input with
      | none => rfl
      | some hunks =>
        show some (hunks.map (Hunk.destPath cwd)) = _
        rw [Option.getD_some, List.map_map]
        exact congrArg some (List.map_congr_left fun hunk _ => destPath_eq_join cwd hunk)
    · rw [if_neg hpatch]
      have hnone : patchPaths parsers (.customToolCall name input callId) = [] := by
        unfold patchPaths
        split
        next heq => cases heq; exact absurd rfl hpatch
        next => rfl
      rw [hnone]
      rfl
  | localShellCall callId exec status =>
    cases callId with
    | none => rfl
    | some callId => exact absurd hcall nofun
  | _ => rfl

/-- The directory the paths of an item are joined to. -/
def joinedTo (parsers : Parsers) (cwd : String) (item : ResponseItem) : String :=
  (workdir parsers item).getD cwd

theorem plan_locations (parsers : Parsers) (uuid : String) (fuel : Nat) (cwd : String)
    (item : ResponseItem) :
    (replayResponseItemPlan parsers uuid fuel cwd (routeReplayResponseItem item)).map
        ReplayResponseItemPlan.locations =
      (namedPaths parsers fuel cwd item).map (List.map (Path.join (joinedTo parsers cwd item))) := by
  unfold joinedTo Replayed.workdir
  cases hcall : shellCall parsers item with
  | none =>
    rw [plan_locations_other hcall]
    unfold namedPaths
    rw [hcall]
    rfl
  | some call => exact plan_locations_shell hcall uuid fuel cwd

/-- It is enough to look at the paths an item names. -/
theorem locationsLive_iff_named (cwd : String) (item : ResponseItem) :
    LocationsLive parsers cwd item ↔
      ∀ fuel paths, namedPaths parsers fuel cwd item = some paths →
        (∀ path ∈ paths, Path.isAbsolute (Path.join (joinedTo parsers cwd item) path) = true) ∧
        paths.map (Path.join (joinedTo parsers cwd item)) =
          paths.map (Path.join (callDirectory parsers cwd item)) := by
  constructor
  · intro hlive fuel paths hnamed
    have hshown := plan_locations parsers "" fuel cwd item
    rw [hnamed, Option.map_some] at hshown
    obtain ⟨plan, hplan, hlocations⟩ := Option.map_eq_some_iff.mp hshown
    obtain ⟨habsolute, named, hnamed', hdirectory⟩ := hlive "" fuel plan hplan
    cases hnamed.symm.trans hnamed'
    rw [hlocations] at habsolute hdirectory
    exact ⟨List.forall_mem_map.mp habsolute, hdirectory⟩
  · intro h uuid fuel plan hplan
    have hshown := plan_locations parsers uuid fuel cwd item
    rw [hplan, Option.map_some] at hshown
    obtain ⟨paths, hnamed, hlocations⟩ := Option.map_eq_some_iff.mp hshown.symm
    obtain ⟨habsolute, hdirectory⟩ := h fuel paths hnamed
    rw [← hlocations]
    exact ⟨List.forall_mem_map.mpr habsolute, paths, hnamed, hdirectory⟩

/-- **Replayed locations.** They are absolute and in the right directory exactly if the call
has no relative working directory, or names no relative path. -/
theorem replayed_locations_iff (parsers : Parsers) {cwd : String}
    (hcwd : Path.isAbsolute cwd = true) (item : ResponseItem) :
    LocationsLive parsers cwd item ↔
      ∀ dir, workdir parsers item = some dir → Path.isAbsolute dir = false →
        ∀ fuel paths, namedPaths parsers fuel cwd item = some paths →
          ∀ path ∈ paths, Path.isAbsolute path = true := by
  rw [locationsLive_iff_named]
  unfold joinedTo callDirectory
  cases hdir : workdir parsers item with
  | none =>
    refine ⟨fun _ dir hsome => absurd hsome nofun, fun _ fuel paths _ => ⟨fun path _ => ?_, rfl⟩⟩
    rw [Option.getD_none, Path.isAbsolute_join, hcwd, Bool.or_true]
  | some dir =>
    rw [Option.getD_some]
    dsimp only
    constructor
    · rintro hlive _ ⟨⟩ hrelative fuel paths hnamed path hpath
      have hjoined := (hlive fuel paths hnamed).1 path hpath
      rwa [Path.isAbsolute_join, hrelative, Bool.or_false] at hjoined
    · intro h fuel paths hnamed
      cases habsolute : Path.isAbsolute dir with
      | true =>
        refine ⟨fun path _ => ?_, ?_⟩
        · rw [Path.isAbsolute_join, habsolute, Bool.or_true]
        · rw [Path.join_of_isAbsolute habsolute]
      | false =>
        -- absolute paths are the same from every directory
        have hpaths := h dir rfl habsolute fuel paths hnamed
        refine ⟨fun path hpath => ?_, List.map_congr_left fun path hpath => ?_⟩
        · rw [Path.isAbsolute_join, hpaths path hpath, Bool.true_or]
        · rw [Path.join_of_isAbsolute (hpaths path hpath),
            Path.join_of_isAbsolute (hpaths path hpath)]

end Plan

/-- Codex knows that `cat notes.md` reads a file. -/
def catParsers : Parsers where
  json _ := none
  shellArgs _ := none
  shellCommandArgs _ := none
  execCommandArgs _ := none
  patch _ := none
  shlexSplit _ := none
  command argv :=
    if argv = ["cat", "notes.md"] then [.read "cat notes.md" "notes.md" "notes.md"]
    else [.unknown (" ".intercalate argv)]
  fs := .ofFiles []

def catNotes (workingDirectory : String) : ResponseItem :=
  .localShellCall (some "call-1")
    { command := ["cat", "notes.md"], workingDirectory := some workingDirectory } .completed

/-- With an absolute working directory. -/
theorem replayed_locations_absolute : LocationsLive catParsers "/work" (catNotes "/work/docs") :=
  (replayed_locations_iff catParsers (by decide) (catNotes "/work/docs")).mpr
    fun _ hdir hrelative => by
      cases hdir
      exact absurd hrelative (by decide)

/-- `cat notes.md` in `docs` of the session is shown at `docs/notes.md`. -/
theorem replayed_location_relative :
    Path.isAbsolute "/work" = true ∧ ¬ LocationsLive catParsers "/work" (catNotes "docs") := by
  refine ⟨by decide, fun hlive => ?_⟩
  have hshown : (replayResponseItemPlan catParsers "" 1 "/work"
      (routeReplayResponseItem (catNotes "docs"))).map ReplayResponseItemPlan.locations =
        some ["docs/notes.md"] := by
    decide
  obtain ⟨plan, hplan, hlocations⟩ := Option.map_eq_some_iff.mp hshown
  have habsolute := (hlive "" 1 plan hplan).1 "docs/notes.md" (by rw [hlocations]; exact .head _)
  exact absurd habsolute (by decide)

end CodexAcp.Boundary.Replayed
