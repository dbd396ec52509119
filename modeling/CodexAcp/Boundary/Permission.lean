import CodexAcp.Lib.Text
import CodexAcp.Boundary.Approval
import CodexAcp.Boundary.ToolCall

/-!
# Building permission requests

How an approval event of Codex becomes a permission request to the editor:
the key the interaction is filed under, the options presented, and the data
kept to turn the answer into an op (`PendingPermissionRequest`). The four
kinds of request share one shape and differ in their options:

> exec: one option for each decision the event offers;
> patch: a fixed pair; permissions: a fixed triple;
> elicitation: allow and cancel, and the persistent grants the event's meta offers.

What the tool call of a request shows is in `Boundary.PermissionToolCall`; of the
tool call there is the id here, and of what it shows the one step that can fail (the
additional permissions of a command are printed as JSON), since its failure loses
the request.
-/

namespace CodexAcp.Boundary

open CodexAcp.Lib CodexAcp.Protocol

/-- What is sent to the editor: the tool call the request is about and the
options to choose from. -/
structure PermissionRequestSeed where
  toolCallId : String
  options : List PermissionOption
  deriving DecidableEq, Repr

/-! ## Request keys -/

def execApprovalRequestKey (callId : String) : String := "exec:" ++ callId
def patchApprovalRequestKey (callId : String) : String := "patch:" ++ callId
def requestPermissionsRequestKey (callId : String) : String := "permissions:" ++ callId

def mcpElicitationRequestKey (serverName : String) (requestId : RequestId) : String :=
  "mcp-elicitation:" ++ serverName ++ ":" ++ requestId.display

/-! ## Exec approvals -/

structure ExecPermissionOption where
  optionId : String
  permissionOption : PermissionOption
  decision : ReviewDecision
  deriving DecidableEq, Repr

/-- The label of an execution-policy amendment names the command prefix when
the prefix fits on one line. -/
def execpolicyAmendmentLabel (amendment : ExecPolicyAmendment) : String :=
  let commandPrefix := " ".intercalate amendment.command
  if commandPrefix.toList.contains '\n' || commandPrefix.toList.contains '\r'
      || commandPrefix = "" then
    "Yes, and remember this command pattern"
  else
    "Yes, and don't ask again for commands that start with `" ++ commandPrefix ++ "`"

/-- The option of one available decision. -/
def execPermissionOption (networkApprovalContext : Option NetworkApprovalContext)
    (additionalPermissions : Option AdditionalPermissionProfile) :
    ReviewDecision → ExecPermissionOption
  | .approved =>
    { optionId := PermissionOptionId.approved
      permissionOption :=
        { optionId := PermissionOptionId.approved
          name := if networkApprovalContext.isSome then "Yes, just this once" else "Yes, proceed"
          kind := .allowOnce }
      decision := .approved }
  | .approvedExecpolicyAmendment amendment =>
    { optionId := PermissionOptionId.approvedExecpolicyAmendment
      permissionOption :=
        { optionId := PermissionOptionId.approvedExecpolicyAmendment
          name := execpolicyAmendmentLabel amendment
          kind := .allowAlways }
      decision := .approvedExecpolicyAmendment amendment }
  | .approvedForSession =>
    { optionId := PermissionOptionId.approvedForSession
      permissionOption :=
        { optionId := PermissionOptionId.approvedForSession
          name :=
            if networkApprovalContext.isSome then "Yes, and allow this host for this session"
            else if additionalPermissions.isSome then
              "Yes, and allow these permissions for this session"
            else "Yes, and don't ask again for this command in this session"
          kind := .allowAlways }
      decision := .approvedForSession }
  | .networkPolicyAmendment amendment =>
    match amendment.action with
    | .allow =>
      { optionId := PermissionOptionId.networkPolicyAmendmentAllow
        permissionOption :=
          { optionId := PermissionOptionId.networkPolicyAmendmentAllow
            name := "Yes, and allow this host in the future"
            kind := .allowAlways }
        decision := .networkPolicyAmendment amendment }
    | .deny =>
      { optionId := PermissionOptionId.networkPolicyAmendmentDeny
        permissionOption :=
          { optionId := PermissionOptionId.networkPolicyAmendmentDeny
            name := "No, and block this host in the future"
            kind := .rejectAlways }
        decision := .networkPolicyAmendment amendment }
  | .denied rejection =>
    { optionId := PermissionOptionId.denied
      permissionOption :=
        { optionId := PermissionOptionId.denied
          name := "No, continue without running it"
          kind := .rejectOnce }
      decision := .denied rejection }
  | .abort =>
    { optionId := PermissionOptionId.abort
      permissionOption :=
        { optionId := PermissionOptionId.abort
          name := "No, and tell Codex what to do differently"
          kind := .rejectOnce }
      decision := .abort }
  | .timedOut =>
    { optionId := PermissionOptionId.timedOut
      permissionOption :=
        { optionId := PermissionOptionId.timedOut
          name := "Time out, tell Codex what to do differently"
          kind := .rejectOnce }
      decision := .timedOut }

/-- The options of an exec approval, one for each available decision. -/
def buildExecPermissionOptions (availableDecisions : List ReviewDecision)
    (networkApprovalContext : Option NetworkApprovalContext)
    (additionalPermissions : Option AdditionalPermissionProfile) : List ExecPermissionOption :=
  availableDecisions.map (execPermissionOption networkApprovalContext additionalPermissions)

/-- The additional permissions are printed as JSON, the one step of the
rendered content that can fail. -/
def execApprovalContent (codex : Codex) (event : ExecApprovalRequestEvent) :
    Except Error Unit :=
  match event.additionalPermissions with
  | none => .ok ()
  | some permissions => (codex.renderPermissions permissions).map fun _ => ()

/-- What is known of a command before it runs. -/
structure ActiveCommandSeed where
  callId : String
  toolCallId : String
  terminalOutput : Bool
  deriving DecidableEq, Repr

structure ExecApprovalInteraction where
  requestKey : String
  approvalId : String
  turnId : String
  optionMap : Dict String ReviewDecision
  activeCommand : ActiveCommandSeed
  permissionRequest : PermissionRequestSeed

def execApprovalInteraction (codex : Codex) (event : ExecApprovalRequestEvent) :
    Except Error ExecApprovalInteraction :=
  match execApprovalContent codex event with
  | .error err => .error err
  | .ok () =>
    let permissionOptions := buildExecPermissionOptions event.effectiveAvailableDecisions
      event.networkApprovalContext event.additionalPermissions
    .ok
      { requestKey := execApprovalRequestKey event.callId
        approvalId := event.approvalId.getD event.callId
        turnId := event.turnId
        optionMap := Dict.collect
          (permissionOptions.map fun option => (option.optionId, option.decision))
        activeCommand :=
          { callId := event.callId
            toolCallId := event.callId
            terminalOutput := (parseCommandToolCall codex event.parsedCmd event.cwd).terminalOutput }
        permissionRequest :=
          { toolCallId := event.callId
            options := permissionOptions.map (·.permissionOption) } }

/-! ## Patch approvals -/

structure PatchApprovalInteraction where
  requestKey : String
  callId : String
  optionMap : Dict String ReviewDecision
  permissionRequest : PermissionRequestSeed

def patchApprovalOptions : List PermissionOption :=
  [{ optionId := PermissionOptionId.approved, name := "Yes", kind := .allowOnce },
   { optionId := PermissionOptionId.denied, name := "No, continue without these edits"
     kind := .rejectOnce }]

def patchApprovalInteraction (event : ApplyPatchApprovalRequestEvent) :
    PatchApprovalInteraction :=
  { requestKey := patchApprovalRequestKey event.callId
    callId := event.callId
    optionMap := Dict.collect
      [(PermissionOptionId.approved, .approved),
       (PermissionOptionId.denied, .denied "rejected by user")]
    permissionRequest := { toolCallId := event.callId, options := patchApprovalOptions } }

/-! ## Permissions requests -/

structure RequestPermissionsInteraction where
  requestKey : String
  callId : String
  permissions : RequestPermissionProfile
  permissionRequest : PermissionRequestSeed

def requestPermissionsOptions : List PermissionOption :=
  [{ optionId := PermissionOptionId.approvedForSession, name := "Yes, for session"
     kind := .allowAlways },
   { optionId := PermissionOptionId.approved, name := "Yes", kind := .allowOnce },
   { optionId := PermissionOptionId.abort, name := "No", kind := .rejectOnce }]

def requestPermissionsInteraction (event : RequestPermissionsEvent) :
    RequestPermissionsInteraction :=
  { requestKey := requestPermissionsRequestKey event.callId
    callId := event.callId
    permissions := event.permissions
    permissionRequest := { toolCallId := event.callId, options := requestPermissionsOptions } }

/-! ## MCP elicitations -/

/-- Which persistent grants the meta offers: for the session, and for good. -/
def mcpToolApprovalPersistModes (members : List (String × Json)) : Bool × Bool :=
  match Json.get members McpApproval.persistKey with
  | some (.string persist) =>
    (persist = McpApproval.persistSession, persist = McpApproval.persistAlways)
  | some (.array values) =>
    (values.any (·.asStr = some McpApproval.persistSession),
     values.any (·.asStr = some McpApproval.persistAlways))
  | _ => (false, false)

def mcpToolApprovalCallId : RequestId → Option String
  | .string value => Text.stripPrefix McpApproval.requestIdPrefix value
  | .integer _ => none

/-- The options of a supported elicitation with what each of them answers; the
same list gives the options presented and, collected, the option map. -/
def mcpApprovalOptions (allowSessionRemember allowPersistentApproval : Bool) :
    List (PermissionOption × McpElicitationResolution) :=
  [({ optionId := McpApproval.allowOptionId, name := "Allow", kind := .allowOnce },
    .accept)] ++
  (if allowSessionRemember then
    [({ optionId := McpApproval.allowSessionOptionId, name := "Allow for this session"
        kind := .allowAlways },
      .acceptWithPersist McpApproval.persistSession)]
   else []) ++
  (if allowPersistentApproval then
    [({ optionId := McpApproval.allowAlwaysOptionId, name := "Allow and don't ask again"
        kind := .allowAlways },
      .acceptWithPersist McpApproval.persistAlways)]
   else []) ++
  [({ optionId := McpApproval.cancelOptionId, name := "Cancel", kind := .rejectOnce },
    .cancel)]

structure SupportedMcpElicitationPermissionRequest where
  requestKey : String
  permissionRequest : PermissionRequestSeed
  optionMap : Dict String McpElicitationResolution

/-- Only a form elicitation whose meta names an MCP tool call is put to the user. -/
def buildSupportedMcpElicitationPermissionRequest (event : ElicitationRequestEvent) :
    Option SupportedMcpElicitationPermissionRequest :=
  match event.request with
  | .form (some metadata) _ =>
    match metadata.asObject with
    | none => none
    | some members =>
      -- The kind is the last check; a meta that is no object does not come this far.
      if (Json.get members McpApproval.kindKey).bind Json.asStr
          ≠ some McpApproval.kindMcpToolCall then none
      else
        let modes := mcpToolApprovalPersistModes members
        let options := mcpApprovalOptions modes.1 modes.2
        some
          { requestKey := mcpElicitationRequestKey event.serverName event.id
            permissionRequest :=
              { toolCallId := (mcpToolApprovalCallId event.id).getD
                  ("mcp-elicitation:" ++ event.id.display)
                options := options.map (·.1) }
            optionMap := Dict.collect (options.map fun o => (o.1.optionId, o.2)) }
  | _ => none

/-- Every other elicitation is declined at once. -/
def unsupportedMcpElicitationDecline (serverName : String) (requestId : RequestId) : Op :=
  .resolveElicitation serverName requestId .decline none none

/-! ## What is kept until the answer comes -/

/-- The data an answer is turned into an op with. -/
inductive PendingPermissionRequest where
  | exec (approvalId turnId : String) (optionMap : Dict String ReviewDecision)
  | patch (callId : String) (optionMap : Dict String ReviewDecision)
  | requestPermissions (callId : String) (permissions : RequestPermissionProfile)
  | mcpElicitation (serverName : String) (requestId : RequestId)
      (optionMap : Dict String McpElicitationResolution)

/-- A permission request about to be sent: the key it is filed under, the data
kept, and the request itself. -/
structure PermissionInteractionRequest where
  requestKey : String
  pendingRequest : PendingPermissionRequest
  permissionRequest : PermissionRequestSeed

def ExecApprovalInteraction.request (interaction : ExecApprovalInteraction) :
    PermissionInteractionRequest :=
  { requestKey := interaction.requestKey
    pendingRequest := .exec interaction.approvalId interaction.turnId interaction.optionMap
    permissionRequest := interaction.permissionRequest }

def PatchApprovalInteraction.request (interaction : PatchApprovalInteraction) :
    PermissionInteractionRequest :=
  { requestKey := interaction.requestKey
    pendingRequest := .patch interaction.callId interaction.optionMap
    permissionRequest := interaction.permissionRequest }

def RequestPermissionsInteraction.request (interaction : RequestPermissionsInteraction) :
    PermissionInteractionRequest :=
  { requestKey := interaction.requestKey
    pendingRequest := .requestPermissions interaction.callId interaction.permissions
    permissionRequest := interaction.permissionRequest }

def SupportedMcpElicitationPermissionRequest.request
    (supported : SupportedMcpElicitationPermissionRequest) (event : ElicitationRequestEvent) :
    PermissionInteractionRequest :=
  { requestKey := supported.requestKey
    pendingRequest := .mcpElicitation event.serverName event.id supported.optionMap
    permissionRequest := supported.permissionRequest }

/-- The permission request an event is put to the user with, if it is. -/
def approvalRequest (codex : Codex) : EventMsg → Option PermissionInteractionRequest
  | .execApprovalRequest event =>
    match execApprovalInteraction codex event with
    | .ok interaction => some interaction.request
    | .error _ => none
  | .applyPatchApprovalRequest event => some (patchApprovalInteraction event).request
  | .requestPermissions event => some (requestPermissionsInteraction event).request
  | .elicitationRequest event =>
    (buildSupportedMcpElicitationPermissionRequest event).map (·.request event)
  | _ => none

/-- The op an outcome of a pending request becomes. -/
def PendingPermissionRequest.op (request : PendingPermissionRequest)
    (outcome : RequestPermissionOutcome) : Op :=
  match request with
  | exec approvalId turnId optionMap => execApprovalOp approvalId turnId outcome optionMap
  | patch callId optionMap => patchApprovalOp callId outcome optionMap
  | requestPermissions callId permissions => requestPermissionsOp callId outcome permissions
  | mcpElicitation serverName requestId optionMap =>
    resolveMcpElicitationOp serverName requestId outcome optionMap

/-- What a pending request asks an answer for. -/
def PendingPermissionRequest.target : PendingPermissionRequest → ApprovalTarget
  | exec approvalId _ _ => .exec approvalId
  | patch callId _ => .patch callId
  | requestPermissions callId _ => .requestPermissions callId
  | mcpElicitation serverName requestId _ => .elicitation serverName requestId

/-- Whatever the outcome, the op answers what the request asked. -/
theorem PendingPermissionRequest.op_target (request : PendingPermissionRequest)
    (outcome : RequestPermissionOutcome) :
    (request.op outcome).approvalTarget = some request.target := by
  cases request <;> rfl

end CodexAcp.Boundary
