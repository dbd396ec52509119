import CodexAcp.Boundary.ToolCall
import CodexAcp.Protocol.FileSystem

/-!
# What a command is shown as

Codex parses a command line into stages. Each of them gives its part of the
title, the locations and the kind of the tool call, and the last one decides the
kind. A stage that Codex does not know is parsed once more, without the wrappers
before it, and what is unknown still is looked at here: a `git diff`, a search or
a file that is read, or else a command that runs in a terminal.

The parser can answer with unknown stages again, so looking into them need not
end; `parseUnknownCommandToolCall` is given how often it may.

> `parseUnknownCommandToolCall_mono`: looking deeper changes no answer.
> `parseCommandToolCall_terminalOutput`: the terminal of a running command is
> opened as its tool call says.
-/

namespace CodexAcp.Boundary.Command

open CodexAcp.Lib CodexAcp.Protocol

inductive ToolKind where
  | read
  | search
  | execute
  deriving DecidableEq, Repr

structure ParseCommandToolCall where
  title : String
  fileExtension : Option String
  terminalOutput : Bool
  locations : List String
  kind : ToolKind
  deriving DecidableEq, Repr

/-! ## Words -/

/-- The file name of the first word. -/
def programName (argv : List String) : Option String := argv.head?.bind Path.fileName

/-- Drop `command` and the assignments before the program. -/
def stripKnownCommandWrappers : List String → List String
  | [] => []
  | word :: argv =>
    match Path.fileName word with
    | none => word :: argv
    | some program =>
      if program = "command" then stripKnownCommandWrappers argv
      else if '=' ∈ program.toList ∧ '/' ∉ program.toList then stripKnownCommandWrappers argv
      else word :: argv

def isShellOperator (arg : String) : Bool :=
  arg ∈ ["|", "&&", "||", ";", "<", "<<", "<<<", ">", ">>", ">&", "&>", "&>>", "1>", "1>>", "2>",
      "2>>"] ||
    Text.startsWith ">" arg || Text.startsWith "<" arg || Text.startsWith "&>" arg ||
    Text.startsWith "1>" arg || Text.startsWith "2>" arg

def argvHasShellOperator (argv : List String) : Bool := argv.any isShellOperator

def isFileReadProgram (program : String) : Bool :=
  program ∈ ["bat", "batcat", "cat", "head", "jq", "less", "more", "nl", "sed", "tail", "yq"]

/-! ## Git and search -/

/-- The first word that is no option, and the words after it. -/
def gitSubcommandFrom : List String → Option (String × List String)
  | [] => none
  | arg :: args =>
    if arg ∈ ["-C", "-c", "--git-dir", "--work-tree", "--namespace"] then
      -- The next word is what the option is set to.
      match args with
      | [] => none
      | _ :: args => gitSubcommandFrom args
    else if Text.startsWith "--git-dir=" arg || Text.startsWith "--work-tree=" arg ||
        Text.startsWith "--namespace=" arg then gitSubcommandFrom args
    else if Text.startsWith "-" arg then gitSubcommandFrom args
    else some (arg, args)

def gitSubcommand (argv : List String) : Option (String × List String) :=
  gitSubcommandFrom (argv.drop 1)

def gitDiffUsesSummaryOutput (args : List String) : Bool :=
  args.any fun arg =>
    arg ∈ ["--stat", "--shortstat", "--numstat", "--name-only", "--name-status", "--summary",
        "--raw", "--check", "--quiet"] ||
      Text.startsWith "--stat=" arg || Text.startsWith "--stat-width" arg ||
      Text.startsWith "--stat-name-width" arg || Text.startsWith "--stat-count" arg

/-- `is_git_diff_command`, of the words without wrappers. -/
def isGitDiff (argv : List String) : Bool :=
  if argvHasShellOperator argv then false
  else if programName argv ≠ some "git" then false
  else
    match gitSubcommand argv with
    | none => false
    | some (subcommand, args) => subcommand = "diff" && !gitDiffUsesSummaryOutput args

/-- `is_search_command`, of the words without wrappers. -/
def isSearch (argv : List String) : Bool :=
  if argvHasShellOperator argv then false
  else
    match programName argv with
    | none => false
    | some program =>
      program ∈ ["rg", "rga", "ripgrep-all", "grep", "egrep", "fgrep", "ag", "ack", "pt"] ||
        (program = "git" && ((gitSubcommand argv).any fun sub => sub.1 = "grep"))

/-! ## Files that are read -/

def pathExtension (path : String) : Option String :=
  ((Path.extension path).filter (· ≠ "")).map Text.toAsciiLowercase

def pathHasExtension (path : String) : Bool := (pathExtension path).isSome

def toolCallLocation (cwd path : String) : String :=
  if Path.isAbsolute path then path else Path.join cwd path

/-- An `i` in a cluster of short options, before a script or a script file. -/
def sedClusterHasInPlace : List Char → Bool
  | [] => false
  | option :: options =>
    if option = 'e' || option = 'f' then false
    else if option = 'i' then true
    else sedClusterHasInPlace options

def sedShortOptionHasInPlace (arg : String) : Bool :=
  match (Text.stripPrefix "-" arg).filter (!Text.startsWith "-" ·) with
  | none => false
  | some options => sedClusterHasInPlace options.toList

/-- The arms of the loop over the words of `sed`. -/
inductive SedWord where
  | endOfOptions
  | inPlace
  /-- The next word is a script or the file of one. -/
  | scriptNext
  | option (bringsScript : Bool)
  | operand
  deriving DecidableEq, Repr

def sedWord (arg : String) : SedWord :=
  if arg = "--" then .endOfOptions
  else if arg ∈ ["-e", "--expression", "-f", "--file"] then .scriptNext
  else if arg ∈ ["-i", "--in-place"] then .inPlace
  else if arg ∈ ["-n", "--quiet", "--silent", "-E", "-r", "-u", "--unbuffered", "-s",
      "--separate", "--posix", "-z", "--null-data"] then .option false
  else if Text.startsWith "--expression=" arg || Text.startsWith "--file=" arg then .option true
  else if Text.startsWith "--in-place=" arg then .inPlace
  else if Text.startsWith "--" arg then .option false
  else if Text.startsWith "-" arg && (Utf8.utf8 arg).length > 2 then
    if sedShortOptionHasInPlace arg then .inPlace
    else .option ('e' ∈ arg.toList || 'f' ∈ arg.toList)
  else .operand

/-- The loop of `sed_input_file_candidates`. -/
def sedInputFileCandidatesFrom (candidates : List String) (sawInlineScript : Bool) :
    List String → List String
  | [] => candidates
  | arg :: args =>
    match sedWord arg with
    | .endOfOptions => candidates ++ args
    | .inPlace => []
    | .scriptNext =>
      match args with
      | [] => candidates
      | _ :: args => sedInputFileCandidatesFrom candidates true args
    | .option bringsScript =>
      sedInputFileCandidatesFrom candidates (sawInlineScript || bringsScript) args
    -- The first operand is the script, unless an option brought one.
    | .operand =>
      if !sawInlineScript then sedInputFileCandidatesFrom candidates true args
      else sedInputFileCandidatesFrom (candidates ++ [arg]) sawInlineScript args

def sedInputFileCandidates (args : List String) : List String :=
  sedInputFileCandidatesFrom [] false args

def argsImplyFileMutation (program : String) (args : List String) : Bool :=
  program = "yq" && args.any fun arg =>
    arg = "-i" || arg = "--in-place" || arg = "--inplace" || Text.startsWith "--in-place=" arg ||
      Text.startsWith "--inplace=" arg

/-- The words that can be files. -/
def fileCandidates (program : String) (args : List String) : List String :=
  if program = "sed" then sedInputFileCandidates args
  else args.filter fun arg => arg ≠ "--" && !Text.startsWith "-" arg

section Parsers

variable (shlexSplit : String → Option (List String))
variable (parseCommand : List String → List ParsedCommand)
variable (fs : FileSystem)

def commandReadPathExists (cwd path : String) : Bool :=
  fs.isFile (if Path.isAbsolute path then path else Path.join cwd path)

def fileReadPathFromArgs (program : String) (args : List String) (cwd : String) : Option String :=
  if argsImplyFileMutation program args then none
  else
    (fileCandidates program args).reverse.find? fun path =>
      pathHasExtension path && commandReadPathExists fs cwd path

/-- `file_read_path_from_unknown_command`, of the words without wrappers. -/
def fileReadPath (argv : List String) (cwd : String) : Option String :=
  if argvHasShellOperator argv then none
  else do
    let program ← programName argv
    if isFileReadProgram program then fileReadPathFromArgs fs program (argv.drop 1) cwd else none

/-! ## Commands -/

def commandArgv (cmd : String) : List String := (shlexSplit cmd).getD (Text.splitWhitespace cmd)

/-- The words of a command without wrappers. -/
def strippedArgv (cmd : String) : List String :=
  stripKnownCommandWrappers (commandArgv shlexSplit cmd)

def isGitDiffCommand (cmd : String) : Bool := isGitDiff (strippedArgv shlexSplit cmd)

def isSearchCommand (cmd : String) : Bool := isSearch (strippedArgv shlexSplit cmd)

def fileReadPathFromUnknownCommand (cmd cwd : String) : Option String :=
  fileReadPath fs (strippedArgv shlexSplit cmd) cwd

/-- Codex has no more to say than that it does not know the stage. -/
def isUnknown : ParsedCommand → Bool
  | .unknown _ => true
  | _ => false

def parseMeaningfulCommand (argv : List String) : Option (List ParsedCommand) :=
  let parsed := parseCommand argv
  if parsed.all isUnknown then none else some parsed

def reparseUnknownCommand (cmd : String) : Option (List ParsedCommand) :=
  let argv := strippedArgv shlexSplit cmd
  if argv.isEmpty then none
  else if argvHasShellOperator argv then
    parseMeaningfulCommand parseCommand ["bash", "-lc", cmd]
  else parseMeaningfulCommand parseCommand argv

/-- What is unknown after all, by its words. -/
def fallbackToolCall (cmd cwd : String) : ParseCommandToolCall :=
  if isGitDiffCommand shlexSplit cmd then
    { title := cmd, fileExtension := some "diff", terminalOutput := false, locations := []
      kind := .read }
  else if isSearchCommand shlexSplit cmd then
    { title := "Search " ++ cmd, fileExtension := none, terminalOutput := false, locations := []
      kind := .search }
  else
    match fileReadPathFromUnknownCommand shlexSplit fs cmd cwd with
    | some path =>
      { title := "Read " ++ (Path.fileName path).getD path
        fileExtension := pathExtension path
        terminalOutput := false
        locations := [toolCallLocation cwd path]
        kind := .read }
    | none =>
      { title := cmd, fileExtension := none, terminalOutput := true, locations := []
        kind := .execute }

/-! ## Stages -/

/-- What the stages before are shown as. -/
structure Stages where
  titles : List String := []
  fileExtension : Option String := none
  terminalOutput : Bool := false
  locations : List String := []
  kind : ToolKind := .execute
  deriving DecidableEq, Repr

namespace Stages

def appendToolCall (stages : Stages) (parsed : ParseCommandToolCall) : Stages where
  titles := if parsed.title = "" then stages.titles else stages.titles ++ [parsed.title]
  fileExtension := parsed.fileExtension.or stages.fileExtension
  terminalOutput := stages.terminalOutput || parsed.terminalOutput
  locations := stages.locations ++ parsed.locations
  kind := parsed.kind

/-- One more stage, where `unknown` says what an unknown one is shown as. -/
def addStage (unknown : String → Option ParseCommandToolCall) (cwd : String) (stages : Stages) :
    ParsedCommand → Option Stages
  | .read _ name path =>
    some { stages with
      titles := stages.titles ++ ["Read " ++ name]
      fileExtension := pathExtension path
      locations := stages.locations ++ [toolCallLocation cwd path]
      kind := .read }
  | .listFiles _ path =>
    let dir := match path with
      | some path => Path.join cwd path
      | none => cwd
    some { stages with
      titles := stages.titles ++ ["List " ++ dir]
      terminalOutput := true
      locations := stages.locations ++ path.toList.map (toolCallLocation cwd)
      kind := .search }
  | .search cmd query path =>
    let title := match query, path with
      | some query, some path => "Search " ++ query ++ " in " ++ path
      | some query, none => "Search " ++ query
      | none, _ => "Search " ++ cmd
    some { stages with titles := stages.titles ++ [title], kind := .search }
  | .unknown cmd => (unknown cmd).map stages.appendToolCall

def toolCall (stages : Stages) : ParseCommandToolCall where
  title := ", ".intercalate stages.titles
  fileExtension := stages.fileExtension
  terminalOutput := stages.terminalOutput
  locations := stages.locations
  kind := stages.kind

end Stages

/-- `parse_command_tool_call`, where `unknown` says what an unknown stage is shown as. -/
def stagesToolCall (unknown : String → Option ParseCommandToolCall) (cwd : String)
    (parsedCmd : List ParsedCommand) : Option ParseCommandToolCall :=
  (parsedCmd.foldlM (Stages.addStage unknown cwd) {}).map Stages.toolCall

/-- What an unknown command is shown as, looking into unknown stages `fuel` levels deep. -/
def parseUnknownCommandToolCall : Nat → String → String → Option ParseCommandToolCall
  | 0, _, _ => none
  | fuel + 1, cmd, cwd =>
    match reparseUnknownCommand shlexSplit parseCommand cmd with
    | some parsedCmd =>
      stagesToolCall (fun cmd => parseUnknownCommandToolCall fuel cmd cwd) cwd parsedCmd
    | none => some (fallbackToolCall shlexSplit fs cmd cwd)

def parseCommandToolCall (fuel : Nat) (parsedCmd : List ParsedCommand) (cwd : String) :
    Option ParseCommandToolCall :=
  stagesToolCall (fun cmd => parseUnknownCommandToolCall shlexSplit parseCommand fs fuel cmd cwd)
    cwd parsedCmd

/-- Looked into deep enough, the unknown command is shown as `toolCall`. -/
def Yields (cmd cwd : String) (toolCall : ParseCommandToolCall) : Prop :=
  ∃ fuel, parseUnknownCommandToolCall shlexSplit parseCommand fs fuel cmd cwd = some toolCall

/-! ## Looking deeper -/

/-- What is known about the unknown stages stays known when more is. -/
theorem stages_mono {unknown unknown' : String → Option ParseCommandToolCall} {cwd : String}
    (h : ∀ cmd toolCall, unknown cmd = some toolCall → unknown' cmd = some toolCall)
    {parsedCmd : List ParsedCommand} {stages stages' : Stages}
    (hstages : parsedCmd.foldlM (Stages.addStage unknown cwd) stages = some stages') :
    parsedCmd.foldlM (Stages.addStage unknown' cwd) stages = some stages' := by
  induction parsedCmd generalizing stages with
  | nil => exact hstages
  | cons cmd parsedCmd ih =>
    rw [List.foldlM_cons] at hstages ⊢
    obtain ⟨next, hnext, hrest⟩ := Option.bind_eq_some_iff.mp hstages
    have hnext' : Stages.addStage unknown' cwd stages cmd = some next := by
      cases cmd with
      | unknown cmd =>
        obtain ⟨toolCall, htoolCall, hadded⟩ := Option.map_eq_some_iff.mp hnext
        exact Option.map_eq_some_iff.mpr ⟨toolCall, h _ _ htoolCall, hadded⟩
      | _ => exact hnext
    rw [hnext']
    exact ih hrest

variable {shlexSplit parseCommand fs}

theorem parseUnknownCommandToolCall_succ {fuel : Nat} {cmd cwd : String}
    {toolCall : ParseCommandToolCall}
    (h : parseUnknownCommandToolCall shlexSplit parseCommand fs fuel cmd cwd = some toolCall) :
    parseUnknownCommandToolCall shlexSplit parseCommand fs (fuel + 1) cmd cwd = some toolCall := by
  induction fuel generalizing cmd toolCall with
  | zero => exact absurd h nofun
  | succ fuel ih =>
    unfold parseUnknownCommandToolCall at h ⊢
    cases hparsed : reparseUnknownCommand shlexSplit parseCommand cmd with
    | none =>
      rw [hparsed] at h
      exact h
    | some parsedCmd =>
      rw [hparsed] at h
      obtain ⟨stages, hstages, htoolCall⟩ := Option.map_eq_some_iff.mp h
      exact Option.map_eq_some_iff.mpr ⟨stages, stages_mono (fun _ _ => ih) hstages, htoolCall⟩

theorem parseUnknownCommandToolCall_mono {fuel fuel' : Nat} (hle : fuel ≤ fuel') {cmd cwd : String}
    {toolCall : ParseCommandToolCall}
    (h : parseUnknownCommandToolCall shlexSplit parseCommand fs fuel cmd cwd = some toolCall) :
    parseUnknownCommandToolCall shlexSplit parseCommand fs fuel' cmd cwd = some toolCall := by
  induction hle with
  | refl => exact h
  | step _ ih => exact parseUnknownCommandToolCall_succ ih

/-- A command is shown as one tool call. -/
theorem Yields.unique {cmd cwd : String} {toolCall toolCall' : ParseCommandToolCall}
    (h : Yields shlexSplit parseCommand fs cmd cwd toolCall)
    (h' : Yields shlexSplit parseCommand fs cmd cwd toolCall') : toolCall = toolCall' := by
  obtain ⟨fuel, h⟩ := h
  obtain ⟨fuel', h'⟩ := h'
  have hmax := parseUnknownCommandToolCall_mono (Nat.le_max_left fuel fuel') h
  have hmax' := parseUnknownCommandToolCall_mono (Nat.le_max_right fuel fuel') h'
  exact Option.some.inj (hmax.symm.trans hmax')

/-- Whether a running command gets a terminal is what its tool call says. -/
theorem parseCommandToolCall_terminalOutput {codex : Codex} {cwd : String}
    (hcodex : ∀ cmd toolCall, Yields shlexSplit parseCommand fs cmd cwd toolCall →
      codex.unknownCommandTerminalOutput cmd cwd = toolCall.terminalOutput)
    {fuel : Nat} {parsedCmd : List ParsedCommand} {toolCall : ParseCommandToolCall}
    (h : parseCommandToolCall shlexSplit parseCommand fs fuel parsedCmd cwd = some toolCall) :
    toolCall.terminalOutput =
      (CodexAcp.Boundary.parseCommandToolCall codex parsedCmd cwd).terminalOutput := by
  obtain ⟨stages, hstages, rfl⟩ := Option.map_eq_some_iff.mp h
  clear h
  show stages.terminalOutput = _
  unfold CodexAcp.Boundary.parseCommandToolCall
  -- stage by stage, both have a terminal or neither
  have hstart : (Stages.mk [] none false [] .execute).terminalOutput =
    (CodexAcp.Boundary.ParseCommandToolCall.mk false).terminalOutput := rfl
  revert hstages hstart
  generalize Stages.mk [] none false [] .execute = before
  generalize CodexAcp.Boundary.ParseCommandToolCall.mk false = running
  intro hstages hsame
  induction parsedCmd generalizing before running with
  | nil =>
    cases hstages
    exact hsame
  | cons cmd parsedCmd ih =>
    rw [List.foldlM_cons] at hstages
    obtain ⟨next, hnext, hrest⟩ := Option.bind_eq_some_iff.mp hstages
    rw [List.foldl_cons]
    refine ih next _ hrest ?_
    cases cmd with
    | unknown cmd =>
      obtain ⟨stageCall, hstageCall, rfl⟩ := Option.map_eq_some_iff.mp hnext
      show (before.terminalOutput || stageCall.terminalOutput) = (_ || _)
      rw [hsame, hcodex cmd stageCall ⟨fuel, hstageCall⟩]
    | listFiles _ _ => cases hnext; rfl
    | _ => cases hnext; exact hsame

end Parsers

/-! ## Stripping -/

/-- The loop goes past the word. -/
def isStripped (word : String) : Bool :=
  match Path.fileName word with
  | none => false
  | some program => program = "command" || ('=' ∈ program.toList && '/' ∉ program.toList)

theorem stripKnownCommandWrappers_cons (word : String) (argv : List String) :
    stripKnownCommandWrappers (word :: argv) =
      if isStripped word then stripKnownCommandWrappers argv else word :: argv := by
  conv_lhs => unfold stripKnownCommandWrappers
  unfold isStripped
  cases Path.fileName word with
  | none => rfl
  | some program =>
    dsimp only
    by_cases hcommand : program = "command"
    · simp [hcommand]
    · by_cases hassigned : '=' ∈ program.toList ∧ '/' ∉ program.toList
      · simp [hassigned]
      · rw [if_neg hcommand, if_neg hassigned, if_neg]
        simpa [hcommand] using hassigned

/-- Where a program is left, what follows stays. -/
theorem stripKnownCommandWrappers_append_of_ne_nil {argv : List String}
    (h : stripKnownCommandWrappers argv ≠ []) (args : List String) :
    stripKnownCommandWrappers (argv ++ args) = stripKnownCommandWrappers argv ++ args := by
  induction argv with
  | nil => exact absurd rfl h
  | cons word argv ih =>
    rw [stripKnownCommandWrappers_cons] at h ⊢
    rw [List.cons_append, stripKnownCommandWrappers_cons]
    split
    next hword =>
      rw [if_pos hword] at h
      exact ih h
    next => rfl

end CodexAcp.Boundary.Command
