import CodexAcp.Boundary.ExecToolCall
import CodexAcp.Boundary.Permission

/-!
# What a permission request shows

The tool call that the editor shows with the options of a permission request: its
title, what is asked for in words, the files it is about, and the event as it came.
`Boundary.Permission` has its id alone, since neither the answer nor what is made of
it depends on the rest.

> `execApproval_recorded` and the three after it: the requests are the same, but for
> what is shown.
> `asks_pending`: whatever is asked about has not begun.
-/

namespace CodexAcp.Boundary.Shown.Asked

open CodexAcp.Lib CodexAcp.Protocol CodexAcp.Boundary

/-! ## Events

Each is the event that is recorded with what only its tool call shows. -/

structure ExecApprovalRequestEvent extends Protocol.ExecApprovalRequestEvent where
  reason : Option String
  proposedExecpolicyAmendment : Option ExecPolicyAmendment
  proposedNetworkPolicyAmendments : Option (List NetworkPolicyAmendment)
  json : Json := .null

structure ApplyPatchApprovalRequestEvent extends Protocol.ApplyPatchApprovalRequestEvent where
  changes : FileChanges
  reason : Option String
  json : Json := .null

structure RequestPermissionsEvent extends Protocol.RequestPermissionsEvent where
  reason : Option String
  json : Json := .null

structure ElicitationRequestEvent extends Protocol.ElicitationRequestEvent where
  json : Json := .null

/-- How Codex and `serde_json` print a value. -/
structure Printer where
  decision : ReviewDecision → String
  /-- `Debug` of a text. -/
  debug : String → String
  compact : Json → String
  /-- `serde_json::to_string_pretty`. -/
  pretty : Json → Option String

/-- A request to the editor, in full. -/
structure PermissionRequestSeed where
  toolCall : ToolCallUpdate
  options : List PermissionOption

def PermissionRequestSeed.recorded (seed : PermissionRequestSeed) :
    Boundary.PermissionRequestSeed :=
  { toolCallId := seed.toolCall.callId, options := seed.options }

/-! ## Commands -/

def networkPolicyRuleAction : NetworkPolicyRuleAction → String
  | .allow => "Allow"
  | .deny => "Deny"

/-- The lines that are there, in one text. -/
def linesContent (lines : List String) : Option (List ToolCallContent) :=
  if !lines.isEmpty then some [toolCallTextContent ("\n".intercalate lines)] else none

/-- The additional permissions are printed as JSON, or fail to be. -/
def permissionsLine (codex : Codex) : Option AdditionalPermissionProfile → Except Error (List String)
  | none => .ok []
  | some permissions =>
    (codex.renderPermissions permissions).map fun text => ["Additional Permissions: " ++ text]

def execApprovalContent (codex : Codex) (printer : Printer) (event : ExecApprovalRequestEvent) :
    Except Error (Option (List ToolCallContent)) :=
  (permissionsLine codex event.additionalPermissions).map fun permissions => linesContent
    (event.reason.toList ++
      (event.proposedExecpolicyAmendment.map fun amendment =>
        "Proposed Amendment: " ++ "\n".intercalate amendment.command).toList ++
      (event.networkApprovalContext.map fun context =>
        "Network Approval Context: " ++ context.protocol ++ " " ++ context.host).toList ++
      permissions ++
      ["Available Decisions: " ++
        "\n".intercalate (event.effectiveAvailableDecisions.map printer.decision)] ++
      (event.proposedNetworkPolicyAmendments.map fun amendments =>
        "Proposed Network Policy Amendments: " ++ "\n".intercalate (amendments.map fun amendment =>
          networkPolicyRuleAction amendment.action ++ " " ++
            printer.debug amendment.host)).toList)

def nonEmptyLocations (locations : List String) : Option (List String) :=
  if !locations.isEmpty then some locations else none

def execApprovalRequestSeed (codex : Codex) (printer : Printer) (reader : Reader)
    (disk : FileSystem) (event : ExecApprovalRequestEvent) : Except Error PermissionRequestSeed := do
  let content ← execApprovalContent codex printer event
  let parsed := reader.parseCommandToolCall disk event.parsedCmd event.cwd
  pure
    { toolCall :=
        { callId := event.callId
          kind := some (.ofCommand parsed.kind)
          status := some .pending
          title := some parsed.title
          rawInput := some event.json
          content := content
          locations := nonEmptyLocations parsed.locations }
      options := (buildExecPermissionOptions event.effectiveAvailableDecisions
        event.networkApprovalContext event.additionalPermissions).map (·.permissionOption) }

/-! ## Patches -/

def patchApprovalRequestSeed (diffy : Diffy) (disk : FileSystem)
    (event : ApplyPatchApprovalRequestEvent) : PermissionRequestSeed :=
  let (title, locations, content) :=
    extractToolCallContentFromChanges diffy disk event.changes .beforeApply
  { toolCall :=
      { callId := event.callId
        kind := some .edit
        status := some .pending
        title := some title
        locations := some locations
        content := some (content ++ (event.reason.map toolCallTextContent).toList)
        rawInput := some event.json
        metadata := some (patchEditOutputDisplayMeta locations.length) }
    options := patchApprovalOptions }

/-! ## Permissions -/

/-- An entry is kept under its path as it is printed. -/
def formatFileSystemEntries (entries : List FileSystemEntry) : String :=
  ", ".intercalate (entries.map (·.path))

/-- The entries of one kind of access, if there are any. -/
def accessLine (label : String) (access : FileSystemAccessMode) (entries : List FileSystemEntry) :
    List String :=
  let text := formatFileSystemEntries (entries.filter fun entry => entry.access = access)
  if text ≠ "" then [label ++ text] else []

def requestPermissionsContent (reason : Option String) (permissions : RequestPermissionProfile) :
    Option (List ToolCallContent) :=
  linesContent
    (reason.toList ++
      (permissions.fileSystem.map fun entries =>
        accessLine "File System Read Access: " .read entries ++
          accessLine "File System Write Access: " .write entries ++
          accessLine "File System Denied Access: " .deny entries).getD [] ++
      ((permissions.network.bind (·.enabled)).map fun enabled =>
        "Network Access: " ++ if enabled then "true" else "false").toList)

def requestPermissionsSeed (event : RequestPermissionsEvent) : PermissionRequestSeed :=
  { toolCall :=
      { callId := event.callId
        status := some .pending
        title := some (event.reason.getD "Permissions Request")
        rawInput := some event.json
        content := requestPermissionsContent event.reason event.permissions }
    options := requestPermissionsOptions }

/-! ## MCP elicitations -/

namespace McpApproval

def toolTitleKey : String := "tool_title"
def toolDescriptionKey : String := "tool_description"
def connectorNameKey : String := "connector_name"
def connectorDescriptionKey : String := "connector_description"
def toolParamsKey : String := "tool_params"
def toolParamsDisplayKey : String := "tool_params_display"

end McpApproval

/-- A text member that is not empty. -/
def textMember (members : List (String × Json)) (key : String) : Option String :=
  ((Json.get members key).bind Json.asStr).filter fun text => text ≠ ""

def formatMcpToolApprovalValue (printer : Printer) : Json → String
  | .string value => value
  | value => printer.compact value

/-- A parameter with a name and a value. -/
def formatMcpToolApprovalParam (printer : Printer) (param : Json) : Option String := do
  let object ← param.asObject
  let name ← ((Json.get object "display_name").bind Json.asStr).or
    ((Json.get object "name").bind Json.asStr)
  let value ← Json.get object "value"
  some ("- " ++ name ++ ": " ++ formatMcpToolApprovalValue printer value)

/-- The parameters as they are to be displayed, if there are any such; else as they are. -/
def formatMcpToolApprovalParams (printer : Printer) (members : List (String × Json)) :
    Option String :=
  let displayed :=
    ((Json.get members McpApproval.toolParamsDisplayKey).bind Json.asArray).bind fun params =>
      let lines := params.filterMap (formatMcpToolApprovalParam printer)
      if !lines.isEmpty then some ("\n".intercalate lines) else none
  displayed.or ((Json.get members McpApproval.toolParamsKey).map fun params =>
    (printer.pretty params).getD (formatMcpToolApprovalValue printer params))

def formatMcpToolApprovalContent (printer : Printer) (serverName message : String)
    (members : List (String × Json)) : String :=
  "\n\n".intercalate
    ([Text.trim message] ++
      [((textMember members McpApproval.connectorNameKey).map ("Source: " ++ ·)).getD
        ("Server: " ++ serverName)] ++
      (textMember members McpApproval.connectorDescriptionKey).toList ++
      (textMember members McpApproval.toolDescriptionKey).toList ++
      ((formatMcpToolApprovalParams printer members).map ("Arguments:\n" ++ ·)).toList)

def mcpElicitationSeed (printer : Printer) (event : ElicitationRequestEvent) :
    Option PermissionRequestSeed :=
  match event.request with
  | .form (some metadata) message =>
    match metadata.asObject with
    | none => none
    | some members =>
      if (Json.get members Boundary.McpApproval.kindKey).bind Json.asStr
          ≠ some Boundary.McpApproval.kindMcpToolCall then none
      else
        let modes := mcpToolApprovalPersistModes members
        let title := ((Json.get members McpApproval.toolTitleKey).bind Json.asStr).filter
          fun title => Text.trim title ≠ ""
        some
          { toolCall :=
              { callId := (mcpToolApprovalCallId event.id).getD
                  ("mcp-elicitation:" ++ event.id.display)
                status := some .pending
                title := some ((title.map ("Approve " ++ ·)).getD "Approve MCP tool call")
                content := some [toolCallTextContent
                  (formatMcpToolApprovalContent printer event.serverName message members)]
                rawInput := some event.json }
            options := (mcpApprovalOptions modes.1 modes.2).map (·.1) }
  | _ => none

/-! ## The same request -/

/-- **The approval of a command** fails if the recorded one does, and is the same but for what is
shown. -/
theorem execApproval_recorded (codex : Codex) (printer : Printer) (reader : Reader)
    (disk : FileSystem) (event : ExecApprovalRequestEvent) :
    (execApprovalRequestSeed codex printer reader disk event).map PermissionRequestSeed.recorded =
      (execApprovalInteraction codex event.toExecApprovalRequestEvent).map
        (·.permissionRequest) := by
  unfold execApprovalRequestSeed execApprovalContent execApprovalInteraction
    Boundary.execApprovalContent permissionsLine
  cases event.additionalPermissions with
  | none => rfl
  | some permissions =>
    dsimp only
    cases codex.renderPermissions permissions <;> rfl

theorem patchApproval_recorded (diffy : Diffy) (disk : FileSystem)
    (event : ApplyPatchApprovalRequestEvent) :
    (patchApprovalRequestSeed diffy disk event).recorded =
      (patchApprovalInteraction event.toApplyPatchApprovalRequestEvent).permissionRequest := rfl

theorem requestPermissions_recorded (event : RequestPermissionsEvent) :
    (requestPermissionsSeed event).recorded =
      (requestPermissionsInteraction event.toRequestPermissionsEvent).permissionRequest := rfl

theorem mcpElicitation_recorded (printer : Printer) (event : ElicitationRequestEvent) :
    (mcpElicitationSeed printer event).map PermissionRequestSeed.recorded =
      (buildSupportedMcpElicitationPermissionRequest event.toElicitationRequestEvent).map
        (·.permissionRequest) := by
  unfold mcpElicitationSeed buildSupportedMcpElicitationPermissionRequest
  cases event.request with
  | form metadata message =>
    cases metadata with
    | none => rfl
    | some metadata =>
      dsimp only
      cases metadata.asObject with
      | none => rfl
      | some members =>
        dsimp only
        split <;> rfl
  | openAiForm _ _ => rfl
  | url _ _ => rfl

/-! ## What is asked about -/

/-- The tool call of a request is pending, under a title. -/
def PermissionRequestSeed.AsksPending (seed : PermissionRequestSeed) : Prop :=
  seed.toolCall.status = some .pending ∧ seed.toolCall.title.isSome = true

/-- **What is asked about** has a title and has not begun, whichever of the requests it is. -/
theorem asks_pending (codex : Codex) (printer : Printer) (reader : Reader) (disk : FileSystem) :
    (∀ event seed, execApprovalRequestSeed codex printer reader disk event = .ok seed →
        seed.AsksPending) ∧
      (∀ event, (patchApprovalRequestSeed reader.diffy disk event).AsksPending) ∧
      (∀ event, (requestPermissionsSeed event).AsksPending) ∧
      ∀ event seed, mcpElicitationSeed printer event = some seed → seed.AsksPending := by
  refine ⟨fun event seed hseed => ?_, fun _ => ⟨rfl, rfl⟩, fun _ => ⟨rfl, rfl⟩,
    fun event seed hseed => ?_⟩
  · unfold execApprovalRequestSeed at hseed
    cases hcontent : execApprovalContent codex printer event with
    | error err =>
      rw [hcontent] at hseed
      cases hseed
    | ok content =>
      rw [hcontent] at hseed
      cases hseed
      exact ⟨rfl, rfl⟩
  · unfold mcpElicitationSeed at hseed
    split at hseed
    · split at hseed
      · cases hseed
      · split at hseed <;> cases hseed
        exact ⟨rfl, rfl⟩
    · cases hseed

end CodexAcp.Boundary.Shown.Asked
