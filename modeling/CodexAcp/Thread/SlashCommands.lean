import CodexAcp.Display
import CodexAcp.Thread.ActorConfig

/-!
# Slash commands

A prompt whose first line is `/name rest` is a command: some become another op
to submit, some change a setting, some only show a text. A command that changes
a setting tells the editor about the new options as its last step, so one that
fails on the way tells it nothing.

Every command that is an op or changes something is here as the source has it. A command
that only shows something answers with the name of what it shows (`.summary`); what
`/agent` and `/ps` list is in `Thread.Subagents` and `Thread.BackgroundTasks`.
-/

namespace CodexAcp.Thread

open CodexAcp.Lib CodexAcp.Protocol CodexAcp.Boundary

/-- What a prompt comes to: an op to submit, or a text that answers it. -/
inductive PromptSubmission where
  | submit (op : Op)
  | handled (message : AgentText)

/-- The goal control requests of the editor. -/
inductive GoalControlAction where
  | set (objective : String)
  | pause
  | resume
  | clear
  deriving DecidableEq, Repr

/-! ## Parsing -/

/-- The name and the rest of a slash command. -/
def slashCommandParts (line : String) : Option (String × String) :=
  match line.toList with
  | '/' :: stripped =>
    let name := stripped.takeWhile fun c => !Text.isWhitespace c
    if name.isEmpty then none
    else
      let rest := stripped.dropWhile fun c => !Text.isWhitespace c
      some (String.ofList name, String.ofList (rest.dropWhile Text.isWhitespace))
  | _ => none

/-- The slash command a prompt starts with. -/
def extractSlashCommand : List UserInput → Option (String × String)
  | .text line :: _ => slashCommandParts line
  | _ => none

/-- Replace the text a prompt starts with. -/
def replaceFirstTextItem (items : List UserInput) (text : String) : List UserInput :=
  match items with
  | .text _ :: rest => .text text :: rest
  | items => items

def goalUsage : String := "Usage: /goal <objective>"
def goalUsageHint : String := "Example: /goal improve benchmark coverage"

def formatThreadGoalSetMessage (codex : Codex) (goal : ThreadGoal) : String :=
  "Goal " ++ formatThreadGoalStatusLabel goal.status ++ "\n" ++
    formatThreadGoalUsageSummary codex goal

/-- The preset the session is shown as, and the ones to choose from. -/
def approvalPresetSummary (codex : Codex) (config : Config) : String :=
  "Approval preset: " ++ (currentSessionModeId codex config).getD "custom" ++
    "\n\nAvailable presets:\n" ++
    "\n".intercalate (codex.approvalPresets.map fun p => "- " ++ p.id ++ ": " ++ p.description)

namespace ThreadActor

def defaultReviewTarget (a : ThreadActor) : ReviewTarget :=
  match a.state.reviewBaseBranch with
  | none => .uncommittedChanges
  | some branch => .baseBranch branch

def review (codex : Codex) (target : ReviewTarget) : Op :=
  .review { userFacingHint := some (codex.userFacingHint target), target := target }

def formatFastModeStatus (codex : Codex) (serviceTier : Option String) : String :=
  if serviceTier.bind codex.serviceTierFromRequestValue = some .fast then "Fast mode is on."
  else "Fast mode is off."

def goalsEnabled (a : ThreadActor) : Bool := a.config.features.goals

/-! ## Settings -/

def switchCollaborationModeAndEmit (codex : Codex) (kind : ModeKind) :
    Handler ThreadActor Error Unit := do
  applyCollaborationModeKind codex kind
  Handler.update (maybeEmitConfigOptionsUpdate codex)

/-- Set the tier, tell the editor, and say what the mode is now. -/
def setServiceTierAndEmit (codex : Codex) (serviceTier : Option ServiceTier) :
    Handler ThreadActor Error String := do
  setServiceTier codex serviceTier
  Handler.update (maybeEmitConfigOptionsUpdate codex)
  Handler.reads fun a => formatFastModeStatus codex a.config.serviceTier

def handleFastCommand (codex : Codex) (args : String) : Handler ThreadActor Error String := do
  let a ← Handler.reads id
  if !a.fastModeConfigurable then pure "Fast mode is not available."
  else
    let arg := Text.toAsciiLowercase (Text.trim args)
    if arg = "" then
      setServiceTierAndEmit codex
        (if a.config.serviceTier.bind codex.serviceTierFromRequestValue = some .fast then none
         else some .fast)
    else if arg = "on" then setServiceTierAndEmit codex (some .fast)
    else if arg = "off" then setServiceTierAndEmit codex none
    else if arg = "status" then pure (formatFastModeStatus codex a.config.serviceTier)
    else pure "Usage: /fast [on|off|status]"

/-- Set the preset an argument names and tell the editor, or show the presets. -/
def handlePermissionsCommand (codex : Codex) (rest : String) :
    Handler ThreadActor Error String :=
  match approvalPresetIdForAgentMode (Text.trim rest) with
  | some mode => do
    handleSetApprovalPreset codex mode
    Handler.update (maybeEmitConfigOptionsUpdate codex)
    pure ("Approval preset set to " ++ mode ++ ".")
  | none => Handler.reads fun a => approvalPresetSummary codex a.config

/-! ## Goals -/

def setThreadGoalStatus (codex : Codex) (status : ThreadGoalStatus) (action : String) :
    Handler ThreadActor Error String := do
  let result ← Handler.attempt
    (call fun n => codex.threadGoalSet n { status := some status })
  match result with
  | .ok goal => pure (formatThreadGoalSetMessage codex goal)
  | .error err =>
    pure ("Failed to " ++ action ++ " thread goal: " ++ codex.displayError err)

def setThreadGoalObjective (codex : Codex) (objective : String) :
    Handler ThreadActor Error String := do
  match codex.validateThreadGoalObjective objective with
  | .error message => pure (message ++ "\n\n" ++ goalUsage ++ "\n" ++ goalUsageHint)
  | .ok () => do
    let goal ← call fun n =>
      codex.threadGoalSet n { objective := some objective, status := some .active }
    pure (formatThreadGoalSetMessage codex goal)

def handleGoalCommand (codex : Codex) (args : String) : Handler ThreadActor Error String := do
  let a ← Handler.reads id
  if !a.goalsEnabled then pure "Goals feature is disabled."
  else
    let args := Text.trim args
    let arg := Text.toAsciiLowercase args
    if arg = "" then do
      match ← call codex.threadGoalGet with
      | none => pure (goalUsage ++ "\nNo goal is currently set.")
      | some goal => pure (formatThreadGoalSummary codex goal)
    else if arg = "clear" then do
      if ← call codex.threadGoalClear then pure "Goal cleared"
      else pure "No goal to clear\nThis thread does not currently have a goal."
    else if arg = "pause" then setThreadGoalStatus codex .paused "update"
    else if arg = "resume" then setThreadGoalStatus codex .active "update"
    -- The words of a command are matched in lower case, the objective keeps its case.
    else setThreadGoalObjective codex args

/-- Change the goal of the thread; the goal it has then. -/
def changeThreadGoal (codex : Codex) : GoalControlAction →
    Handler ThreadActor Error (Option ThreadGoal)
  | .set objective => some <$> call fun n =>
      codex.threadGoalSet n { objective := some objective, status := some .active }
  | .pause => some <$> call fun n => codex.threadGoalSet n { status := some .paused }
  | .resume => some <$> call fun n => codex.threadGoalSet n { status := some .active }
  | .clear => (fun _ => none) <$> call codex.threadGoalClear

/-- Remember a goal, and tell the editor when it is another one. -/
def rememberGoal (goal : Option ThreadGoal) (a : ThreadActor) : ThreadActor :=
  let (changed, state) := a.state.updateGoal goal
  let a := { a with state := state }
  if changed then a.sendNotification (.goalUpdate goal) else a

def handleGoalControl (codex : Codex) (action : GoalControlAction) :
    Handler ThreadActor Error Unit := do
  let a ← Handler.reads id
  if !a.goalsEnabled then
    Handler.fail (Error.invalidParams.withData "goals feature is disabled")
  else do
    let goal ← changeThreadGoal codex action
    Handler.update (rememberGoal goal)

/-! ## Prompts -/

/-- `/plan`: switch the collaboration mode, and submit the text that follows as
a prompt, if there is one. -/
def handlePlanCommand (codex : Codex) (rest : String) (items : List UserInput) :
    Handler ThreadActor Error PromptSubmission := do
  let trimmed := Text.trim rest
  if trimmed = "" || trimmed = "on" then do
    switchCollaborationModeAndEmit codex .plan
    pure (.handled (.text ("Plan mode enabled. Future turns will run in plan mode until you " ++
      "switch back with `/plan off`.")))
  else if trimmed = "off" || trimmed = "default" || trimmed = "code" then do
    switchCollaborationModeAndEmit codex .default
    pure (.handled (.text "Plan mode disabled. Future turns will run in default mode."))
  else do
    switchCollaborationModeAndEmit codex .plan
    pure (.submit (.userInput (replaceFirstTextItem items trimmed)))

def handleSlashCommand (codex : Codex) (name rest : String) (items : List UserInput) :
    Handler ThreadActor Error PromptSubmission :=
  if name = "compact" then pure (.submit .compact)
  else if name = "undo" then pure (.submit (.threadRollback 1))
  else if name = "init" then pure (.submit (.userInput [.text codex.initCommandPrompt]))
  else if name = "review" then
    let instructions := Text.trim rest
    Handler.reads fun a => .submit (review codex
      (if instructions = "" then a.defaultReviewTarget else .custom instructions))
  else if name = "review-branch" && rest ≠ "" then
    pure (.submit (review codex (.baseBranch (Text.trim rest))))
  else if name = "review-commit" && rest ≠ "" then
    pure (.submit (review codex (.commit (Text.trim rest) none)))
  else if name = "status" then pure (.handled (.summary .status))
  else if name = "usage" then pure (.handled (.summary .usage))
  else if name = "goal" then (.handled <| .text ·) <$> handleGoalCommand codex rest
  else if name = "fast" then (.handled <| .text ·) <$> handleFastCommand codex rest
  else if name = "agent" || name = "subagents" then pure (.handled (.summary .subagents))
  else if name = "mcp" then pure (.handled (.summary .mcp))
  else if name = "skills" then pure (.handled (.summary .skills))
  else if name = "ps" then pure (.handled (.summary .backgroundTasks))
  else if name = "approvals" || name = "permissions" then
    (.handled <| .text ·) <$> handlePermissionsCommand codex rest
  else if name = "plan" then handlePlanCommand codex rest items
  else if name = "logout" then do
    let _ ← call codex.logout
    Handler.fail Error.authRequired
  else pure (.submit (.userInput items))

def promptSubmissionForItems (codex : Codex) (items : List UserInput) :
    Handler ThreadActor Error PromptSubmission :=
  match extractSlashCommand items with
  | none => pure (.submit (.userInput items))
  | some (name, rest) => handleSlashCommand codex name rest items

end ThreadActor

end CodexAcp.Thread
