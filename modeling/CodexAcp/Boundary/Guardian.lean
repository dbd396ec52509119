import CodexAcp.Boundary.ShownToolCall

/-!
# Guardian assessments

Codex has risky actions assessed before they run, and reports how an assessment
goes. Each is shown as a tool call of its own; every report can introduce it or
update it, whichever is needed, with the same status and contents.

The source quotes the words of a program with `shlex`, which is a parameter; it keeps
the risk level as a value of Codex's, here it is the name.
-/

namespace CodexAcp.Boundary.Guardian

open CodexAcp.Lib CodexAcp.Protocol

inductive GuardianAssessmentStatus where
  | inProgress
  | approved
  | denied
  | timedOut
  | aborted
  deriving DecidableEq, Repr

inductive GuardianCommandSource where
  | shell
  | unifiedExec
  deriving DecidableEq, Repr

inductive GuardianAssessmentAction where
  | command (source : GuardianCommandSource) (command : String)
  | execve (source : GuardianCommandSource) (program : String) (argv : List String)
  | applyPatch (files : List String)
  | networkAccess (target host : String)
  | mcpToolCall (server toolName : String) (connectorName : Option String)
  | requestPermissions (reason : Option String)
  deriving DecidableEq, Repr

/-- A report, and the JSON value it is written as; the risk level is the name Codex has for it. -/
structure GuardianAssessmentEvent where
  id : String
  status : GuardianAssessmentStatus
  riskLevel : Option String
  rationale : Option String
  action : GuardianAssessmentAction
  json : Json

/-! ## Contents -/

def guardianAssessmentToolCallId (id : String) : String := "guardian_assessment:" ++ id

def guardianAssessmentToolCallStatus : GuardianAssessmentStatus → ToolCallStatus
  | .inProgress => .inProgress
  | .approved => .completed
  | .denied | .aborted | .timedOut => .failed

def guardianCommandSourceLabel : GuardianCommandSource → String
  | .shell => "shell"
  | .unifiedExec => "exec"

section Shlex

-- `shlex::try_join`
variable (shlexTryJoin : List String → Option String)

def guardianActionSummary : GuardianAssessmentAction → String
  | .command source command => guardianCommandSourceLabel source ++ " " ++ command
  | .execve source program argv =>
    let command := if argv.isEmpty then [program] else argv
    let joined := (shlexTryJoin command).getD (" ".intercalate command)
    guardianCommandSourceLabel source ++ " " ++ joined
  | .applyPatch files =>
    match files with
    | [file] => "apply_patch touching " ++ file
    | files => "apply_patch touching " ++ toString files.length ++ " files"
  | .networkAccess target host => "network access to " ++ (if target = "" then host else target)
  | .mcpToolCall server toolName connectorName =>
    "MCP " ++ toolName ++ " on " ++ connectorName.getD server
  | .requestPermissions reason => reason.getD "request additional permissions"

def guardianAssessmentContent (event : GuardianAssessmentEvent) : List ToolCallContent :=
  let status :=
    match event.status with
    | .inProgress => "In progress"
    | .approved => "Approved"
    | .denied => "Denied"
    | .aborted => "Aborted"
    | .timedOut => "Timed out"
  let lines :=
    ["Status: " ++ status, "Action: " ++ guardianActionSummary shlexTryJoin event.action] ++
      (event.riskLevel.map fun level => "Risk: " ++ Text.toAsciiLowercase level).toList ++
      ((event.rationale.filter fun rationale => Text.trim rationale ≠ "").map
        fun rationale => "Rationale: " ++ rationale).toList
  [toolCallTextContent ("\n".intercalate lines)]

/-! ## The effect of a report -/

inductive GuardianAssessmentEffectPlan where
  | inProgress (id : String) (start update : Shown.SessionUpdate)
  | finished (id : String) (start update : Shown.SessionUpdate)

namespace GuardianAssessmentEffectPlan

def start : GuardianAssessmentEffectPlan → Shown.SessionUpdate
  | inProgress _ start _ | finished _ start _ => start

def update : GuardianAssessmentEffectPlan → Shown.SessionUpdate
  | inProgress _ _ update | finished _ _ update => update

end GuardianAssessmentEffectPlan

def guardianAssessmentEffectPlan (event : GuardianAssessmentEvent) :
    GuardianAssessmentEffectPlan :=
  let callId := guardianAssessmentToolCallId event.id
  let status := guardianAssessmentToolCallStatus event.status
  let content := guardianAssessmentContent shlexTryJoin event
  let start :=
    .toolCall
      { callId := callId
        title := "Guardian Review"
        kind := .think
        status := status
        content := content
        rawInput := some event.json }
  let update :=
    .toolCallUpdate
      { callId := callId
        status := some status
        content := some content
        rawOutput := some event.json }
  match event.status with
  | .inProgress => .inProgress event.id start update
  | .timedOut | .approved | .denied | .aborted => .finished event.id start update

/-- Whatever a report says, the one effect introduces the tool call of its assessment. -/
theorem guardianAssessmentEffectPlan_start (event : GuardianAssessmentEvent) :
    ∃ call, (guardianAssessmentEffectPlan shlexTryJoin event).start = .toolCall call ∧
      call.callId = guardianAssessmentToolCallId event.id ∧
      call.status = guardianAssessmentToolCallStatus event.status := by
  obtain ⟨id, status, riskLevel, rationale, action, json⟩ := event
  cases status <;> exact ⟨_, rfl, rfl, rfl⟩

/-- The other one updates it. -/
theorem guardianAssessmentEffectPlan_update (event : GuardianAssessmentEvent) :
    ∃ change, (guardianAssessmentEffectPlan shlexTryJoin event).update = .toolCallUpdate change ∧
      change.callId = guardianAssessmentToolCallId event.id ∧
      change.status = some (guardianAssessmentToolCallStatus event.status) := by
  obtain ⟨id, status, riskLevel, rationale, action, json⟩ := event
  cases status <;> exact ⟨_, rfl, rfl, rfl⟩

end Shlex

/-! ## Ids and statuses -/

/-- Assessments do not share a tool call. -/
theorem guardianAssessmentToolCallId_inj {id id' : String} :
    guardianAssessmentToolCallId id = guardianAssessmentToolCallId id' ↔ id = id' := by
  unfold guardianAssessmentToolCallId
  rw [← String.toList_inj, String.toList_append, String.toList_append, List.append_cancel_left_eq,
    String.toList_inj]

/-- The call is over. -/
def isTerminal (status : ToolCallStatus) : Bool := status = .completed || status = .failed

theorem isTerminal_toolCallStatus (status : GuardianAssessmentStatus) :
    isTerminal (guardianAssessmentToolCallStatus status) = !decide (status = .inProgress) := by
  cases status <;> rfl

end CodexAcp.Boundary.Guardian
