import CodexAcp.Protocol.Event

/-!
# What the adapter relies on

The adapter's environment, as one record: the tables and helper functions of
the Codex libraries it calls, the operating system's answers, and what the
Codex thread answers to each call. A call that can fail is a function of the
number of calls made before it, so that for every order of successes and
failures there is an environment that gives it; nothing is assumed about an
answer unless a theorem names the assumption. `Codex.sample` is one such
environment, for concrete runs.
-/

namespace CodexAcp.Protocol

/-- An approval preset of the Codex preset table. -/
structure ApprovalPreset where
  id : String
  label : String
  description : String
  approval : AskForApproval
  permissionProfile : PermissionProfile
  deriving DecidableEq, Repr

/-- A collaboration preset: the settings it puts over a base mode. -/
structure CollaborationModeMask where
  mode : Option ModeKind
  model : Option String
  reasoningEffort : Option (Option ReasoningEffort)
  developerInstructions : Option (Option String)
  deriving DecidableEq, Repr

structure SupportedReasoningEffort where
  effort : ReasoningEffort
  description : String
  deriving DecidableEq, Repr

structure ModelPreset where
  id : String
  model : String
  displayName : String
  description : String
  defaultReasoningEffort : ReasoningEffort
  supportedReasoningEfforts : List SupportedReasoningEffort
  isDefault : Bool
  showInPicker : Bool
  deriving DecidableEq, Repr

/-- What a models manager answers: the presets it lists, and the model it
resolves a configured model name to. -/
structure ModelsManager where
  listModels : List ModelPreset
  getModel : Option String → String

inductive SteerInputError where
  | noActiveTurn
  | other (message : String)
  deriving DecidableEq, Repr

/-- A request to set the goal of a thread. -/
structure ThreadGoalSetRequest where
  objective : Option String := none
  status : Option ThreadGoalStatus := none
  tokenBudget : Option (Option Int) := none
  deriving DecidableEq, Repr

/-- The summaries of the session's state a slash command shows; they are rendered
elsewhere. -/
inductive Summary where
  | status
  | usage
  | subagents
  | mcp
  | skills
  | backgroundTasks
  deriving DecidableEq, Repr

/-- A question Codex asked through `request_user_input`, kept until answered. -/
structure PendingUserInputRequest where
  submissionId : String
  callId : String
  turnId : String
  questions : List RequestUserInputQuestion
  deriving DecidableEq, Repr

/-- The environment of a session actor. -/
structure Codex where
  /-- `builtin_approval_presets`. -/
  approvalPresets : List ApprovalPreset
  /-- `builtin_collaboration_mode_presets`. -/
  collaborationPresets : List CollaborationModeMask
  /-- `CollaborationMode::apply_mask`. -/
  applyMask : CollaborationMode → CollaborationModeMask → CollaborationMode
  /-- `ModeKind::display_name`. -/
  modeDisplayName : ModeKind → String
  /-- `PermissionProfile::network_sandbox_policy`. -/
  networkSandboxPolicy : PermissionProfile → NetworkSandboxPolicy
  /-- `FileSystemSandboxPolicy::has_full_disk_read_access`. -/
  hasFullDiskReadAccess : PermissionProfile → Bool
  /-- `FileSystemSandboxPolicy::has_full_disk_write_access`. -/
  hasFullDiskWriteAccess : PermissionProfile → Bool
  /-- `FileSystemSandboxPolicy::can_write_path_with_cwd`. -/
  canWritePathWithCwd : PermissionProfile → String → String → Bool
  /-- `ServiceTier::from_request_value`. -/
  serviceTierFromRequestValue : String → Option ServiceTier
  /-- `ServiceTier::request_value`. -/
  serviceTierRequestValue : ServiceTier → String
  /-- How a reasoning effort prints. -/
  effortDisplay : ReasoningEffort → String
  /-- `to_title_case` of a printed reasoning effort. -/
  titleCase : String → String
  /-- Reading a reasoning effort from its JSON text. -/
  parseEffort : String → Option ReasoningEffort
  /-- `user_facing_hint` of a review. -/
  userFacingHint : ReviewTarget → String
  /-- `serde_json::to_string_pretty` of a command's additional permissions. -/
  renderPermissions : AdditionalPermissionProfile → Except Error String
  /-- Whether `parse_unknown_command_tool_call` puts the output of a command that Codex could
  not parse in a terminal: it parses the command again, and looks for files below the
  working directory. -/
  unknownCommandTerminalOutput : String → String → Bool
  /-- `validate_thread_goal_objective`. -/
  validateThreadGoalObjective : String → Except String Unit
  /-- Building the items of a prompt reads files below the session root. -/
  buildPromptItems : List ContentBlock → Option String → List UserInput
  /-- Reading a reply to a `request_user_input` question. -/
  parseRequestUserInputResponse :
    PendingUserInputRequest → String → Except Error RequestUserInputResponse
  /-- The text a `request_user_input` question is shown as. -/
  requestUserInputPromptText : PendingUserInputRequest → String
  /-- `format_token_count_compact`: a count in thousands or millions, as a float. -/
  formatTokenCountCompact : Int → String
  /-- How the error of a request prints. -/
  displayError : Error → String
  /-- `Uuid::new_v4`, by the number of notifications sent before: an id that is made is sent. -/
  newUuid : Nat → String
  /-- The prompt `/init` submits. -/
  initCommandPrompt : String
  /-- `CodexThread::submit`: the id of the accepted submission, or a refusal. -/
  submit : Nat → Op → Except String String
  /-- `CodexThread::steer_input`. -/
  steerInput : Nat → List UserInput → Except SteerInputError String
  /-- `CodexThread::thread_goal_get`. -/
  threadGoalGet : Nat → Except Error (Option ThreadGoal)
  /-- `CodexThread::thread_goal_set`. -/
  threadGoalSet : Nat → ThreadGoalSetRequest → Except Error ThreadGoal
  /-- `CodexThread::thread_goal_clear`. -/
  threadGoalClear : Nat → Except Error Bool
  /-- `ConfigEditsBuilder::set_service_tier(..).apply()`. -/
  editServiceTier : Nat → Option String → Except String Unit
  /-- `set_project_trust_level(.., Trusted)`. -/
  setProjectTrustLevel : Nat → Except Error Unit
  /-- `AuthManager::logout`. -/
  logout : Nat → Except Error Bool

/-! ## A cooperative environment -/

namespace Codex

/-- The three presets of the Codex preset table, with a read-only and a
workspace profile spelled out. -/
def samplePresets : List ApprovalPreset :=
  [{ id := "read-only", label := "Read Only", description := "Read files only"
     approval := .onRequest
     permissionProfile := .managed [⟨"/", .read⟩] .restricted },
   { id := "auto", label := "Default", description := "Edit files in the workspace"
     approval := .onRequest
     permissionProfile := .managed [⟨"/", .read⟩, ⟨".", .write⟩] .restricted },
   { id := "full-access", label := "Full Access", description := "No sandbox, no questions"
     approval := .never
     permissionProfile := .disabled }]

/-- An environment in which every call succeeds: concrete runs start from it. -/
def sample : Codex where
  approvalPresets := samplePresets
  collaborationPresets :=
    [{ mode := some .default, model := none, reasoningEffort := none
       developerInstructions := none },
     { mode := some .plan, model := none, reasoningEffort := none
       developerInstructions := some (some "Plan first.") }]
  applyMask base mask :=
    { mode := mask.mode.getD base.mode
      settings :=
        { model := mask.model.getD base.settings.model
          reasoningEffort := mask.reasoningEffort.getD base.settings.reasoningEffort
          developerInstructions :=
            mask.developerInstructions.getD base.settings.developerInstructions } }
  modeDisplayName
    | .default => "Default"
    | .plan => "Plan"
  networkSandboxPolicy
    | .managed _ network => network
    | .disabled => .enabled
    | .external network => network
  hasFullDiskReadAccess
    | .managed fileSystem _ => fileSystem.any fun e => e.path = "/" && e.access = .read
    | _ => true
  hasFullDiskWriteAccess
    | .managed fileSystem _ => fileSystem.any fun e => e.path = "/" && e.access = .write
    | _ => true
  canWritePathWithCwd
    | .managed fileSystem _, _, _ => fileSystem.any fun e => e.access = .write
    | _, _, _ => true
  serviceTierFromRequestValue value :=
    if value = "priority" then some .fast else if value = "flex" then some .flex else none
  serviceTierRequestValue
    | .fast => "priority"
    | .flex => "flex"
  effortDisplay
    | .none => "none"
    | .minimal => "minimal"
    | .low => "low"
    | .medium => "medium"
    | .high => "high"
    | .xhigh => "xhigh"
    | .max => "max"
    | .ultra => "ultra"
    | .custom name => name
  titleCase text := text
  parseEffort value :=
    if value = "high" then some .high else if value = "xhigh" then some .xhigh else none
  userFacingHint _ := "current changes"
  renderPermissions _ := .ok "{}"
  unknownCommandTerminalOutput _ _ := true
  validateThreadGoalObjective _ := .ok ()
  buildPromptItems prompt _ := prompt.filterMap fun
    | .text text => some (.text text)
    | _ => none
  parseRequestUserInputResponse _ text := .ok ⟨[("answer", [text])]⟩
  requestUserInputPromptText _ := "Additional input is required before Codex can continue."
  formatTokenCountCompact count := toString count
  displayError _ := "request failed"
  newUuid n := String.ofList (List.replicate n '0')
  initCommandPrompt := "Write an AGENTS.md file."
  submit n _ := .ok ("submission-" ++ toString n)
  steerInput _ _ := .error .noActiveTurn
  threadGoalGet _ := .ok none
  threadGoalSet _ _ := .error Error.invalidParams
  threadGoalClear _ := .ok false
  editServiceTier _ _ := .ok ()
  setProjectTrustLevel _ := .ok ()
  logout _ := .ok true

end Codex

/-- A models manager with one model. -/
def ModelsManager.sample : ModelsManager where
  listModels :=
    [{ id := "gpt-5.5", model := "gpt-5.5", displayName := "GPT-5.5", description := ""
       defaultReasoningEffort := .high
       supportedReasoningEfforts := [⟨.high, "High"⟩, ⟨.xhigh, "Extra high"⟩]
       isDefault := true, showInPicker := true }]
  getModel model := model.getD "gpt-5.5"

end CodexAcp.Protocol
