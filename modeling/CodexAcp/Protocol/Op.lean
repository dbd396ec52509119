import CodexAcp.Protocol.Types

/-!
# What the adapter submits to Codex

The operations a session actor submits, with every field the adapter fills,
and the Codex types those fields have. `Op.approvalTarget` names what an
answering operation answers; it is how the development speaks about "the
approval this op answers" without looking inside the decision.
-/

namespace CodexAcp.Protocol

/-! ## Review decisions -/

inductive NetworkPolicyRuleAction where
  | allow
  | deny
  deriving DecidableEq, Repr

structure NetworkPolicyAmendment where
  host : String
  action : NetworkPolicyRuleAction
  deriving DecidableEq, Repr

/-- A command prefix the execution policy is asked to allow from now on. -/
structure ExecPolicyAmendment where
  command : List String
  deriving DecidableEq, Repr

inductive ReviewDecision where
  | approved
  | approvedExecpolicyAmendment (proposedExecpolicyAmendment : ExecPolicyAmendment)
  | approvedForSession
  | networkPolicyAmendment (networkPolicyAmendment : NetworkPolicyAmendment)
  | denied (rejection : String)
  | abort
  | timedOut
  deriving DecidableEq, Repr

/-! ## Permissions -/

inductive FileSystemAccessMode where
  | read
  | write
  | deny
  deriving DecidableEq, Repr

structure FileSystemEntry where
  path : String
  access : FileSystemAccessMode
  deriving DecidableEq, Repr

structure NetworkPermissions where
  enabled : Option Bool := none
  deriving DecidableEq, Repr

/-- The permissions a turn asks for; the default asks for none. -/
structure RequestPermissionProfile where
  network : Option NetworkPermissions := none
  fileSystem : Option (List FileSystemEntry) := none
  deriving DecidableEq, Repr

inductive PermissionGrantScope where
  | turn
  | session
  deriving DecidableEq, Repr

structure RequestPermissionsResponse where
  permissions : RequestPermissionProfile
  scope : PermissionGrantScope
  strictAutoReview : Bool
  deriving DecidableEq, Repr

inductive ElicitationAction where
  | accept
  | decline
  | cancel
  deriving DecidableEq, Repr

/-- The id of an MCP request. -/
inductive RequestId where
  | string (value : String)
  | integer (value : Int)
  deriving DecidableEq, Repr

/-- How a request id prints. -/
def RequestId.display : RequestId → String
  | string value => value
  | integer value => toString value

/-! ## Thread settings -/

inductive AskForApproval where
  | unlessTrusted
  | onFailure
  | onRequest
  | granular (sandboxApproval rules mcpElicitations : Bool)
  | never
  deriving DecidableEq, Repr

/-- The constructor of an approval policy, without its data. -/
inductive AskForApproval.Discriminant where
  | unlessTrusted
  | onFailure
  | onRequest
  | granular
  | never
  deriving DecidableEq, Repr

def AskForApproval.discriminant : AskForApproval → AskForApproval.Discriminant
  | unlessTrusted => .unlessTrusted
  | onFailure => .onFailure
  | onRequest => .onRequest
  | granular .. => .granular
  | never => .never

inductive NetworkSandboxPolicy where
  | restricted
  | enabled
  deriving DecidableEq, Repr

/-- What the sandbox lets a command do: `managed` by rules on files and
network, `disabled`, or left to an `external` sandbox. -/
inductive PermissionProfile where
  | managed (fileSystem : List FileSystemEntry) (network : NetworkSandboxPolicy)
  | disabled
  | external (network : NetworkSandboxPolicy)
  deriving DecidableEq, Repr

structure ActivePermissionProfile where
  id : String
  deriving DecidableEq, Repr

inductive ReasoningEffort where
  | none
  | minimal
  | low
  | medium
  | high
  | xhigh
  | max
  | ultra
  | custom (name : String)
  deriving DecidableEq, Repr

inductive ModeKind where
  | default
  | plan
  deriving DecidableEq, Repr

inductive ServiceTier where
  | fast
  | flex
  deriving DecidableEq, Repr

structure Settings where
  model : String
  reasoningEffort : Option ReasoningEffort
  developerInstructions : Option String
  deriving DecidableEq, Repr

structure CollaborationMode where
  mode : ModeKind
  settings : Settings
  deriving DecidableEq, Repr

/-- A partial update of a thread's settings: an absent field keeps its value;
`effort` and `serviceTier` are doubly optional, so that they can be cleared. -/
structure ThreadSettingsOverrides where
  model : Option String := .none
  effort : Option (Option ReasoningEffort) := .none
  serviceTier : Option (Option String) := .none
  approvalPolicy : Option AskForApproval := .none
  permissionProfile : Option PermissionProfile := .none
  activePermissionProfile : Option ActivePermissionProfile := .none
  collaborationMode : Option CollaborationMode := .none
  deriving DecidableEq, Repr

/-! ## User input and reviews -/

inductive UserInput where
  | text (text : String)
  | image (imageUrl : String)
  deriving DecidableEq, Repr

/-- The answers to the questions of a request, by question id. -/
structure RequestUserInputResponse where
  answers : List (String × List String)
  deriving DecidableEq, Repr

inductive ReviewTarget where
  | uncommittedChanges
  | baseBranch (branch : String)
  | commit (sha : String) (title : Option String)
  | custom (instructions : String)
  deriving DecidableEq, Repr

structure ReviewRequest where
  userFacingHint : Option String
  target : ReviewTarget
  deriving DecidableEq, Repr

/-! ## Operations -/

inductive Op where
  | userInput (items : List UserInput)
  | userInputAnswer (id : String) (response : RequestUserInputResponse)
  | compact
  | threadRollback (numTurns : Nat)
  | review (reviewRequest : ReviewRequest)
  | interrupt
  | shutdown
  | threadSettings (threadSettings : ThreadSettingsOverrides)
  | execApproval (id : String) (turnId : Option String) (decision : ReviewDecision)
  | patchApproval (id : String) (decision : ReviewDecision)
  | requestPermissionsResponse (id : String) (response : RequestPermissionsResponse)
  | resolveElicitation (serverName : String) (requestId : RequestId)
      (decision : ElicitationAction) (content metadata : Option Json)

/-- What an approval asks for an answer to: the kind of the request and the id
Codex matches an answer by. -/
inductive ApprovalTarget where
  | exec (id : String)
  | patch (id : String)
  | requestPermissions (id : String)
  | elicitation (serverName : String) (requestId : RequestId)
  deriving DecidableEq, Repr

/-- The approval an operation answers, if it answers one. -/
def Op.approvalTarget : Op → Option ApprovalTarget
  | execApproval id _ _ => some (.exec id)
  | patchApproval id _ => some (.patch id)
  | requestPermissionsResponse id _ => some (.requestPermissions id)
  | resolveElicitation serverName requestId _ _ _ => some (.elicitation serverName requestId)
  | userInput _ | userInputAnswer _ _ | compact | threadRollback _ | review _ | interrupt
  | shutdown | threadSettings _ => none

/-- The settings an operation overrides, if it overrides some. -/
def Op.overrides : Op → Option ThreadSettingsOverrides
  | threadSettings overrides => some overrides
  | _ => none

end CodexAcp.Protocol
