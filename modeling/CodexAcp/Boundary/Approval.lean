import CodexAcp.Lib.Dict
import CodexAcp.Protocol.Op

/-!
# Turning a permission outcome into an op

The last step of an approval: the outcome the editor returned, together with
the data kept from the request, becomes the operation that answers Codex. A
review (`exec`, `patch`) and an elicitation look the chosen option id up in the
map built with the request; a permissions request compares it with the two
approving ids. Everything else (an id the map does not hold, a cancelled
outcome, an outcome of a later protocol version) falls back to the refusing
answer.
-/

namespace CodexAcp.Boundary

open CodexAcp.Lib CodexAcp.Protocol

/-! ## The option ids on the wire -/

namespace PermissionOptionId

def approved : String := "approved"
def approvedExecpolicyAmendment : String := "approved-execpolicy-amendment"
def approvedForSession : String := "approved-for-session"
def networkPolicyAmendmentAllow : String := "network-policy-amendment-allow"
def networkPolicyAmendmentDeny : String := "network-policy-amendment-deny"
def denied : String := "denied"
def abort : String := "abort"
def timedOut : String := "timed_out"

end PermissionOptionId

namespace McpApproval

def kindKey : String := "codex_approval_kind"
def kindMcpToolCall : String := "mcp_tool_call"
def persistKey : String := "persist"
def persistSession : String := "session"
def persistAlways : String := "always"
def requestIdPrefix : String := "mcp_tool_call_approval_"
def allowOptionId : String := PermissionOptionId.approved
def allowSessionOptionId : String := PermissionOptionId.approvedForSession
def allowAlwaysOptionId : String := "approved-always"
def cancelOptionId : String := "cancel"

end McpApproval

/-! ## Elicitation resolutions -/

/-- What an option of an MCP elicitation answers. -/
structure McpElicitationResolution where
  action : ElicitationAction
  content : Option Json
  metadata : Option Json

namespace McpElicitationResolution

def accept : McpElicitationResolution :=
  { action := .accept, content := none, metadata := none }

def acceptWithPersist (persist : String) : McpElicitationResolution :=
  { action := .accept, content := none
    metadata := some (.object [(McpApproval.persistKey, .string persist)]) }

def cancel : McpElicitationResolution :=
  { action := .cancel, content := none, metadata := none }

end McpElicitationResolution

/-! ## Outcomes -/

/-- The decision of a review: what the option map holds under the chosen id,
and an abort otherwise. -/
def reviewDecision (outcome : RequestPermissionOutcome)
    (optionMap : Dict String ReviewDecision) : ReviewDecision :=
  match outcome with
  | .selected optionId => (optionMap.lookup optionId).getD .abort
  | .cancelled => .abort
  | .unknown => .abort

def deniedRequestPermissionsResponse : RequestPermissionsResponse :=
  { permissions := {}, scope := .turn, strictAutoReview := true }

def requestPermissionsResponse (outcome : RequestPermissionOutcome)
    (permissions : RequestPermissionProfile) : RequestPermissionsResponse :=
  match outcome with
  | .selected optionId =>
    if optionId = PermissionOptionId.approvedForSession then
      { permissions := permissions, scope := .session, strictAutoReview := false }
    else if optionId = PermissionOptionId.approved then
      { permissions := permissions, scope := .turn, strictAutoReview := false }
    else deniedRequestPermissionsResponse
  | .cancelled => deniedRequestPermissionsResponse
  | .unknown => deniedRequestPermissionsResponse

def mcpElicitationResolution (outcome : RequestPermissionOutcome)
    (optionMap : Dict String McpElicitationResolution) : McpElicitationResolution :=
  match outcome with
  | .selected optionId => (optionMap.lookup optionId).getD .cancel
  | .cancelled => .cancel
  | .unknown => .cancel

/-! ## Ops -/

def execApprovalOp (approvalId turnId : String) (outcome : RequestPermissionOutcome)
    (optionMap : Dict String ReviewDecision) : Op :=
  .execApproval approvalId (some turnId) (reviewDecision outcome optionMap)

def patchApprovalOp (callId : String) (outcome : RequestPermissionOutcome)
    (optionMap : Dict String ReviewDecision) : Op :=
  .patchApproval callId (reviewDecision outcome optionMap)

def requestPermissionsOp (callId : String) (outcome : RequestPermissionOutcome)
    (permissions : RequestPermissionProfile) : Op :=
  .requestPermissionsResponse callId (requestPermissionsResponse outcome permissions)

def resolveMcpElicitationOp (serverName : String) (requestId : RequestId)
    (outcome : RequestPermissionOutcome)
    (optionMap : Dict String McpElicitationResolution) : Op :=
  let response := mcpElicitationResolution outcome optionMap
  .resolveElicitation serverName requestId response.action response.content response.metadata

end CodexAcp.Boundary
