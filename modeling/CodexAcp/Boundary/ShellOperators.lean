import CodexAcp.Boundary.Command
import CodexAcp.Lib.Shell

/-!
# Shell operators

A command line with an operator does more than its first words say, so it is
taken for a read or a search only if Codex says so of the whole script. Whether
it has one is asked of its words, and a word is an operator only where blanks are
before it:

> `operators_respected_iff`: an operator is respected if it is such a word, and
> else exactly if nobody recognises the words.
-/

namespace CodexAcp.Boundary.Command

open CodexAcp.Lib CodexAcp.Protocol

section Parsers

variable (shlexSplit : String → Option (List String))
variable (parseCommand : List String → List ParsedCommand)
variable (fs : FileSystem)

/-- Codex knows a stage of the command, run as a script. -/
def scriptMeaningful (cmd : String) : Bool :=
  (parseMeaningfulCommand parseCommand ["bash", "-lc", cmd]).isSome

/-- A command with an operator that nothing quotes is shown as something else than run only if
Codex knows a stage of the script; otherwise it is shown as run, in a terminal. -/
def OperatorsRespected (cmd cwd : String) : Prop :=
  Shell.hasOperator cmd = true →
    (∀ toolCall, Yields shlexSplit parseCommand fs cmd cwd toolCall → toolCall.kind ≠ .execute →
      scriptMeaningful parseCommand cmd = true) ∧
    (scriptMeaningful parseCommand cmd = false →
      ∃ toolCall, Yields shlexSplit parseCommand fs cmd cwd toolCall ∧
        toolCall.kind = .execute ∧ toolCall.terminalOutput = true)

/-! ## What is recognised -/

/-- `stage` is an unknown stage that looking at `cmd` comes to. -/
def IsUnknownStage (stage cmd : String) : Prop :=
  ∃ parsedCmd, reparseUnknownCommand shlexSplit parseCommand cmd = some parsedCmd ∧
    ParsedCommand.unknown stage ∈ parsedCmd

/-- Looking into unknown stages comes to an end. -/
def Ends (cmd : String) : Prop := Acc (IsUnknownStage shlexSplit parseCommand) cmd

/-- Neither Codex nor a look at the words knows the command, or else what Codex makes of the
words ends with a stage of which that is so. -/
inductive Unrecognised (cwd : String) : String → Prop
  | plain {cmd : String} (hparsed : reparseUnknownCommand shlexSplit parseCommand cmd = none)
      (hdiff : isGitDiffCommand shlexSplit cmd = false)
      (hsearch : isSearchCommand shlexSplit cmd = false)
      (hread : fileReadPathFromUnknownCommand shlexSplit fs cmd cwd = none) : Unrecognised cwd cmd
  | last {cmd stage : String} {parsedCmd : List ParsedCommand}
      (hparsed : reparseUnknownCommand shlexSplit parseCommand cmd = some parsedCmd)
      (hlast : parsedCmd.getLast? = some (.unknown stage)) (hstage : Unrecognised cwd stage) :
      Unrecognised cwd cmd

end Parsers

/-! ## Stages -/

/-- An unknown stage is shown as it is by itself; any other one is not shown as run. -/
theorem addStage_cases {unknown : String → Option ParseCommandToolCall} {cwd : String}
    {stages stages' : Stages} {cmd : ParsedCommand}
    (h : Stages.addStage unknown cwd stages cmd = some stages') :
    (∃ stage toolCall, cmd = .unknown stage ∧ unknown stage = some toolCall ∧
      stages' = stages.appendToolCall toolCall) ∨
    (isUnknown cmd = false ∧ stages'.kind ≠ .execute) := by
  cases cmd with
  | unknown stage =>
    obtain ⟨toolCall, htoolCall, hadded⟩ := Option.map_eq_some_iff.mp h
    exact .inl ⟨stage, toolCall, rfl, htoolCall, hadded.symm⟩
  | _ =>
    cases h
    exact .inr ⟨rfl, nofun⟩

/-- The last stage decides the kind. -/
theorem stagesToolCall_last {unknown : String → Option ParseCommandToolCall} {cwd : String}
    {parsedCmd : List ParsedCommand} {last : ParsedCommand} {toolCall : ParseCommandToolCall}
    (h : stagesToolCall unknown cwd parsedCmd = some toolCall)
    (hlast : parsedCmd.getLast? = some last) :
    (∃ stage lastCall, last = .unknown stage ∧ unknown stage = some lastCall ∧
      toolCall.kind = lastCall.kind ∧
      (lastCall.terminalOutput = true → toolCall.terminalOutput = true)) ∨
    (isUnknown last = false ∧ toolCall.kind ≠ .execute) := by
  obtain ⟨before, rfl⟩ := List.getLast?_eq_some_iff.mp hlast
  obtain ⟨stages, hstages, rfl⟩ := Option.map_eq_some_iff.mp h
  rw [List.foldlM_append] at hstages
  obtain ⟨stages', -, hadded⟩ := Option.bind_eq_some_iff.mp hstages
  rw [List.foldlM_cons] at hadded
  obtain ⟨stages'', hadded, hrest⟩ := Option.bind_eq_some_iff.mp hadded
  cases hrest
  rcases addStage_cases hadded with ⟨stage, lastCall, rfl, hlastCall, rfl⟩ | hknown
  · refine .inl ⟨stage, lastCall, rfl, hlastCall, rfl, fun hterminal => ?_⟩
    show (stages'.terminalOutput || lastCall.terminalOutput) = true
    rw [hterminal, Bool.or_true]
  · exact .inr hknown

/-- Every unknown stage was shown as something. -/
theorem stagesToolCall_unknown {unknown : String → Option ParseCommandToolCall} {cwd : String}
    {parsedCmd : List ParsedCommand} {toolCall : ParseCommandToolCall}
    (h : stagesToolCall unknown cwd parsedCmd = some toolCall) {stage : String}
    (hstage : ParsedCommand.unknown stage ∈ parsedCmd) :
    ∃ stageCall, unknown stage = some stageCall := by
  obtain ⟨stages, hstages, -⟩ := Option.map_eq_some_iff.mp h
  obtain ⟨before, after, rfl⟩ := List.append_of_mem hstage
  rw [List.foldlM_append] at hstages
  obtain ⟨stages', -, hadded⟩ := Option.bind_eq_some_iff.mp hstages
  rw [List.foldlM_cons] at hadded
  obtain ⟨stages'', hadded, -⟩ := Option.bind_eq_some_iff.mp hadded
  rcases addStage_cases hadded with ⟨_, stageCall, hcmd, hstageCall, -⟩ | ⟨hknown, -⟩
  · cases hcmd
    exact ⟨stageCall, hstageCall⟩
  · exact absurd hknown (by simp [isUnknown])

/-- Stages of which each unknown one is shown as something are shown as something. -/
theorem stagesToolCall_defined {unknown : String → Option ParseCommandToolCall} (cwd : String)
    {parsedCmd : List ParsedCommand}
    (h : ∀ stage, ParsedCommand.unknown stage ∈ parsedCmd →
      ∃ toolCall, unknown stage = some toolCall) :
    ∃ toolCall, stagesToolCall unknown cwd parsedCmd = some toolCall := by
  suffices hstages : ∀ stages, ∃ stages',
      parsedCmd.foldlM (Stages.addStage unknown cwd) stages = some stages' by
    obtain ⟨stages', hstages'⟩ := hstages {}
    exact ⟨_, Option.map_eq_some_iff.mpr ⟨stages', hstages', rfl⟩⟩
  induction parsedCmd with
  | nil => exact fun stages => ⟨stages, rfl⟩
  | cons cmd parsedCmd ih =>
    intro stages
    obtain ⟨next, hnext⟩ : ∃ next, Stages.addStage unknown cwd stages cmd = some next := by
      cases cmd with
      | unknown stage =>
        obtain ⟨toolCall, htoolCall⟩ := h stage (List.mem_cons_self ..)
        exact ⟨_, Option.map_eq_some_iff.mpr ⟨toolCall, htoolCall, rfl⟩⟩
      | _ => exact ⟨_, rfl⟩
    rw [List.foldlM_cons, hnext]
    exact ih (fun stage hstage => h stage (List.mem_cons_of_mem _ hstage)) next

section Parsers

variable {shlexSplit : String → Option (List String)}
variable {parseCommand : List String → List ParsedCommand}
variable {fs : FileSystem}

/-- What is parsed once more has a stage. -/
theorem reparseUnknownCommand_last {cmd : String} {parsedCmd : List ParsedCommand}
    (h : reparseUnknownCommand shlexSplit parseCommand cmd = some parsedCmd) :
    ∃ last, parsedCmd.getLast? = some last := by
  have hne : parsedCmd ≠ [] := by
    rintro rfl
    have hmeaningful : ∀ argv, parseMeaningfulCommand parseCommand argv ≠ some [] := by
      intro argv hargv
      unfold parseMeaningfulCommand at hargv
      dsimp only at hargv
      split at hargv
      · exact absurd hargv nofun
      next hknown => exact hknown (by rw [Option.some.inj hargv]; rfl)
    unfold reparseUnknownCommand at h
    dsimp only at h
    split at h
    · exact absurd h nofun
    · split at h
      · exact hmeaningful _ h
      · exact hmeaningful _ h
  exact ⟨_, List.getLast?_eq_some_getLast hne⟩

/-! ## Unknown commands -/

theorem fallbackToolCall_execute_iff {cmd cwd : String} :
    (fallbackToolCall shlexSplit fs cmd cwd).kind = .execute ↔
      isGitDiffCommand shlexSplit cmd = false ∧ isSearchCommand shlexSplit cmd = false ∧
        fileReadPathFromUnknownCommand shlexSplit fs cmd cwd = none := by
  unfold fallbackToolCall
  cases isGitDiffCommand shlexSplit cmd with
  | true => simp
  | false =>
    cases isSearchCommand shlexSplit cmd with
    | true => simp
    | false => cases fileReadPathFromUnknownCommand shlexSplit fs cmd cwd <;> simp

theorem fallbackToolCall_terminal {cmd cwd : String}
    (h : (fallbackToolCall shlexSplit fs cmd cwd).kind = .execute) :
    (fallbackToolCall shlexSplit fs cmd cwd).terminalOutput = true := by
  obtain ⟨hdiff, hsearch, hread⟩ := fallbackToolCall_execute_iff.mp h
  unfold fallbackToolCall
  rw [hdiff, hsearch, hread]
  rfl

/-- What is shown was looked into to the end. -/
theorem Yields.ends {cmd cwd : String} {toolCall : ParseCommandToolCall}
    (h : Yields shlexSplit parseCommand fs cmd cwd toolCall) :
    Ends shlexSplit parseCommand cmd := by
  obtain ⟨fuel, h⟩ := h
  induction fuel generalizing cmd toolCall with
  | zero => exact absurd h nofun
  | succ fuel ih =>
    refine Acc.intro cmd fun stage hstage => ?_
    obtain ⟨parsedCmd, hparsed, hmem⟩ := hstage
    unfold parseUnknownCommandToolCall at h
    rw [hparsed] at h
    obtain ⟨stageCall, hstageCall⟩ := stagesToolCall_unknown h hmem
    exact ih hstageCall

/-- What is shown as run is recognised by nobody, and has a terminal. -/
theorem Yields.unrecognised {cmd cwd : String} {toolCall : ParseCommandToolCall}
    (h : Yields shlexSplit parseCommand fs cmd cwd toolCall) (hkind : toolCall.kind = .execute) :
    Unrecognised shlexSplit parseCommand fs cwd cmd ∧ toolCall.terminalOutput = true := by
  obtain ⟨fuel, h⟩ := h
  induction fuel generalizing cmd toolCall with
  | zero => exact absurd h nofun
  | succ fuel ih =>
    unfold parseUnknownCommandToolCall at h
    cases hparsed : reparseUnknownCommand shlexSplit parseCommand cmd with
    | none =>
      rw [hparsed] at h
      cases h
      obtain ⟨hdiff, hsearch, hread⟩ := fallbackToolCall_execute_iff.mp hkind
      exact ⟨.plain hparsed hdiff hsearch hread, fallbackToolCall_terminal hkind⟩
    | some parsedCmd =>
      rw [hparsed] at h
      obtain ⟨last, hlast⟩ := reparseUnknownCommand_last hparsed
      rcases stagesToolCall_last h hlast with ⟨stage, lastCall, rfl, hlastCall, hsame, hterminal⟩ |
        ⟨-, hother⟩
      · obtain ⟨hstage, hlastTerminal⟩ := ih (hsame.symm.trans hkind) hlastCall
        exact ⟨.last hparsed hlast hstage, hterminal hlastTerminal⟩
      · exact absurd hkind hother

theorem Unrecognised.execute {cmd cwd : String}
    (h : Unrecognised shlexSplit parseCommand fs cwd cmd) {toolCall : ParseCommandToolCall}
    (hyields : Yields shlexSplit parseCommand fs cmd cwd toolCall) : toolCall.kind = .execute := by
  induction h generalizing toolCall with
  | plain hparsed hdiff hsearch hread =>
    obtain ⟨fuel, hyields⟩ := hyields
    cases fuel with
    | zero => exact absurd hyields nofun
    | succ fuel =>
      unfold parseUnknownCommandToolCall at hyields
      rw [hparsed] at hyields
      cases hyields
      exact fallbackToolCall_execute_iff.mpr ⟨hdiff, hsearch, hread⟩
  | last hparsed hlast _ ih =>
    obtain ⟨fuel, hyields⟩ := hyields
    cases fuel with
    | zero => exact absurd hyields nofun
    | succ fuel =>
      unfold parseUnknownCommandToolCall at hyields
      rw [hparsed] at hyields
      rcases stagesToolCall_last hyields hlast with ⟨stage, lastCall, hcmd, hlastCall, hsame, -⟩ |
        ⟨hknown, -⟩
      · cases hcmd
        exact hsame.trans (ih ⟨fuel, hlastCall⟩)
      · exact absurd hknown (by simp [isUnknown])

/-- Deep enough for every stage. -/
theorem stages_fuel {cwd : String} {parsedCmd : List ParsedCommand}
    (h : ∀ stage, ParsedCommand.unknown stage ∈ parsedCmd →
      ∃ toolCall, Yields shlexSplit parseCommand fs stage cwd toolCall) :
    ∃ fuel, ∀ stage, ParsedCommand.unknown stage ∈ parsedCmd →
      ∃ toolCall,
        parseUnknownCommandToolCall shlexSplit parseCommand fs fuel stage cwd = some toolCall := by
  induction parsedCmd with
  | nil => exact ⟨0, nofun⟩
  | cons cmd parsedCmd ih =>
    obtain ⟨fuel, hfuel⟩ := ih fun stage hstage => h stage (List.mem_cons_of_mem _ hstage)
    by_cases hcmd : ∃ stage, cmd = .unknown stage
    · obtain ⟨stage, rfl⟩ := hcmd
      obtain ⟨toolCall, fuel', hyields⟩ := h stage (List.mem_cons_self ..)
      refine ⟨max fuel fuel', fun stage' hstage' => ?_⟩
      rcases List.mem_cons.mp hstage' with hstage' | hstage'
      · cases hstage'
        exact ⟨toolCall, parseUnknownCommandToolCall_mono (Nat.le_max_right ..) hyields⟩
      · obtain ⟨toolCall', hknown⟩ := hfuel stage' hstage'
        exact ⟨toolCall', parseUnknownCommandToolCall_mono (Nat.le_max_left ..) hknown⟩
    · refine ⟨fuel, fun stage hstage => ?_⟩
      rcases List.mem_cons.mp hstage with hstage | hstage
      · exact absurd ⟨stage, hstage.symm⟩ hcmd
      · exact hfuel stage hstage

/-- Where looking comes to an end, something is shown. -/
theorem Ends.yields {cmd : String} (h : Ends shlexSplit parseCommand cmd) (cwd : String) :
    ∃ toolCall, Yields shlexSplit parseCommand fs cmd cwd toolCall := by
  induction h with
  | intro cmd _ ih =>
    cases hparsed : reparseUnknownCommand shlexSplit parseCommand cmd with
    | none =>
      refine ⟨fallbackToolCall shlexSplit fs cmd cwd, 1, ?_⟩
      unfold parseUnknownCommandToolCall
      rw [hparsed]
    | some parsedCmd =>
      obtain ⟨fuel, hfuel⟩ :=
        stages_fuel fun stage hstage => ih stage ⟨parsedCmd, hparsed, hstage⟩
      obtain ⟨toolCall, htoolCall⟩ := stagesToolCall_defined cwd hfuel
      refine ⟨toolCall, fuel + 1, ?_⟩
      unfold parseUnknownCommandToolCall
      rw [hparsed]
      exact htoolCall

/-- An operator that is seen leaves only the script to recognise the command by. -/
theorem unrecognised_of_operator {cmd cwd : String}
    (hoperator : argvHasShellOperator (strippedArgv shlexSplit cmd) = true)
    (hscript : scriptMeaningful parseCommand cmd = false) :
    reparseUnknownCommand shlexSplit parseCommand cmd = none ∧
      Unrecognised shlexSplit parseCommand fs cwd cmd := by
  have hparsed : reparseUnknownCommand shlexSplit parseCommand cmd = none := by
    have hnone : parseMeaningfulCommand parseCommand ["bash", "-lc", cmd] = none := by
      simpa [scriptMeaningful] using hscript
    unfold reparseUnknownCommand
    dsimp only
    rw [if_pos hoperator, hnone, ite_self]
  refine ⟨hparsed, .plain hparsed ?_ ?_ ?_⟩
  · unfold isGitDiffCommand isGitDiff
    rw [if_pos hoperator]
  · unfold isSearchCommand isSearch
    rw [if_pos hoperator]
  · unfold fileReadPathFromUnknownCommand fileReadPath
    rw [if_pos hoperator]

/-- An operator with blanks around it is seen, wherever it stands after a program. -/
theorem spaced_operator_seen {line operator word rest : String}
    (hline : (Shell.scan line).quoting = .bare)
    (hprogram : stripKnownCommandWrappers (Shell.scan line).texts ≠ [])
    (hbare : (Shell.scan operator).quoting = .bare)
    (hword : (Shell.scan operator).texts = [word]) (hoperator : isShellOperator word = true)
    (hrest : (Shell.split rest).isSome) :
    argvHasShellOperator
      (strippedArgv Shell.split (line ++ " " ++ (operator ++ " " ++ rest))) = true := by
  obtain ⟨words, hwords⟩ := Option.isSome_iff_exists.mp hrest
  have hsplit : Shell.split (line ++ " " ++ (operator ++ " " ++ rest)) =
      some ((Shell.scan line).texts ++ (word :: words)) := by
    rw [Shell.split_append_blank hline, Shell.split_append_blank hbare, hwords, hword]
    rfl
  unfold strippedArgv commandArgv
  rw [hsplit, Option.getD_some, stripKnownCommandWrappers_append_of_ne_nil hprogram]
  unfold argvHasShellOperator
  rw [List.any_append, List.any_cons, hoperator, Bool.true_or, Bool.or_true]

/-- **Shell operators.** A command with an operator is shown as it should be exactly if Codex
knows a stage of the script, or an operator is among the words that begin with one, or nobody
recognises the words as they are, and looking comes to an end. -/
theorem operators_respected_iff (shlexSplit : String → Option (List String))
    (parseCommand : List String → List ParsedCommand) (fs : FileSystem) (cmd cwd : String) :
    OperatorsRespected shlexSplit parseCommand fs cmd cwd ↔
      (Shell.hasOperator cmd = true →
        scriptMeaningful parseCommand cmd = true ∨
        argvHasShellOperator (strippedArgv shlexSplit cmd) = true ∨
        Ends shlexSplit parseCommand cmd ∧ Unrecognised shlexSplit parseCommand fs cwd cmd) := by
  refine forall_congr' fun _ => ?_
  cases hscript : scriptMeaningful parseCommand cmd with
  | true => exact ⟨fun _ => .inl rfl, fun _ => ⟨fun _ _ _ => rfl, nofun⟩⟩
  | false =>
    rw [or_iff_right Bool.false_ne_true]
    constructor
    · intro h
      obtain ⟨toolCall, hyields, hkind, -⟩ := h.2 rfl
      exact .inr ⟨hyields.ends, (hyields.unrecognised hkind).1⟩
    · intro h
      have hboth : Ends shlexSplit parseCommand cmd ∧
          Unrecognised shlexSplit parseCommand fs cwd cmd := by
        rcases h with hoperator | hboth
        · obtain ⟨hparsed, hplain⟩ := unrecognised_of_operator hoperator hscript
          refine ⟨Acc.intro cmd fun stage hstage => ?_, hplain⟩
          obtain ⟨parsedCmd, hsome, -⟩ := hstage
          exact absurd (hparsed.symm.trans hsome) nofun
        · exact hboth
      obtain ⟨hends, hplain⟩ := hboth
      obtain ⟨toolCall, hyields⟩ := hends.yields cwd
      have hkind := hplain.execute hyields
      exact ⟨fun toolCall' hyields' hother => absurd (hplain.execute hyields') hother,
        fun _ => ⟨toolCall, hyields, hkind, (hyields.unrecognised hkind).2⟩⟩

end Parsers

/-- `cat notes.txt;rm notes.txt` is shown as reading the file, though Codex knows neither the
words nor the script. -/
theorem operator_in_word_unseen :
    ¬ OperatorsRespected Shell.split (fun argv => [.unknown (" ".intercalate argv)])
      (.ofFiles [("/work/notes.txt", "")]) "cat notes.txt;rm notes.txt" "/work" := by
  intro h
  obtain ⟨toolCall, hyields, hkind, -⟩ := (h (by decide)).2 (by decide)
  have hread : (parseUnknownCommandToolCall Shell.split
      (fun argv => [.unknown (" ".intercalate argv)]) (.ofFiles [("/work/notes.txt", "")]) 1
      "cat notes.txt;rm notes.txt" "/work").map (·.kind) = some .read := by decide
  obtain ⟨readCall, hreadCall, hreadKind⟩ := Option.map_eq_some_iff.mp hread
  rw [hyields.unique ⟨1, hreadCall⟩, hreadKind] at hkind
  exact absurd hkind nofun

end CodexAcp.Boundary.Command
