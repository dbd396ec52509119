/-!
# Shared protocol types

The values both protocols exchange, as far as the adapter reads them: JSON
values with the accessors the adapter uses, the error of a failed request, and
the editor-side types of session configuration, permission requests and their
outcomes.
-/

namespace CodexAcp.Protocol

/-! ## JSON -/

/-- A JSON value; an object is its list of members. -/
inductive Json where
  | null
  | bool (b : Bool)
  | number (text : String)
  | string (s : String)
  | array (values : List Json)
  | object (members : List (String × Json))

namespace Json

/-- The text of a string value. -/
def asStr : Json → Option String
  | string s => some s
  | _ => none

/-- The members of an object value. -/
def asObject : Json → Option (List (String × Json))
  | object members => some members
  | _ => none

/-- The values of an array value. -/
def asArray : Json → Option (List Json)
  | array values => some values
  | _ => none

/-- The value of a boolean. -/
def asBool : Json → Option Bool
  | bool b => some b
  | _ => none

/-- The member of an object under a key. -/
def get (members : List (String × Json)) (key : String) : Option Json := members.lookup key

end Json

/-! ## Errors of a request -/

/-- The JSON-RPC error codes the adapter answers with. -/
inductive ErrorCode where
  | invalidParams
  | internalError
  | authRequired
  | resourceNotFound
  deriving DecidableEq, Repr

/-- The error of a failed request. -/
structure Error where
  code : ErrorCode
  data : Option Json := none

namespace Error

def invalidParams : Error := { code := .invalidParams }
def internalError : Error := { code := .internalError }
def authRequired : Error := { code := .authRequired }
def resourceNotFound : Error := { code := .resourceNotFound }

/-- Attach a text to an error. -/
def withData (e : Error) (text : String) : Error := { e with data := some (.string text) }

/-- An error of another library, reported as an internal error with its text. -/
def fromAnyhow (text : String) : Error := internalError.withData text

end Error

/-! ## Session configuration, as the editor sees it -/

abbrev SessionModeId := String
abbrev SessionConfigId := String

/-- One value of a select option. -/
structure SessionConfigSelectOption where
  value : String
  name : String
  description : Option String := none
  deriving DecidableEq, Repr

inductive SessionConfigOptionCategory where
  | mode
  | model
  | thoughtLevel
  deriving DecidableEq, Repr

/-- A select option of the session configuration. -/
structure SessionConfigOption where
  id : SessionConfigId
  name : String
  currentValue : String
  options : List SessionConfigSelectOption
  category : Option SessionConfigOptionCategory := none
  description : Option String := none
  deriving DecidableEq, Repr

/-- The value of a request to set a configuration option. -/
inductive SessionConfigOptionValue where
  | valueId (value : String)
  | other
  deriving DecidableEq, Repr

structure SessionMode where
  id : SessionModeId
  name : String
  description : Option String := none
  deriving DecidableEq, Repr

structure SessionModeState where
  currentModeId : SessionModeId
  availableModes : List SessionMode
  deriving DecidableEq, Repr

structure LoadSessionResponse where
  modes : SessionModeState
  configOptions : List SessionConfigOption
  deriving DecidableEq, Repr

/-! ## Permission requests, as the editor sees them -/

/-- What choosing a permission option means to the user. -/
inductive PermissionOptionKind where
  | allowOnce
  | allowAlways
  | rejectOnce
  | rejectAlways
  deriving DecidableEq, Repr

/-- The kinds that allow what is asked. -/
def PermissionOptionKind.isAllow : PermissionOptionKind → Bool
  | allowOnce | allowAlways => true
  | rejectOnce | rejectAlways => false

structure PermissionOption where
  optionId : String
  name : String
  kind : PermissionOptionKind
  deriving DecidableEq, Repr

/-- What the user did with a permission request; the protocol lets later
versions add outcomes this code does not know. -/
inductive RequestPermissionOutcome where
  | cancelled
  | selected (optionId : String)
  | unknown
  deriving DecidableEq, Repr

structure RequestPermissionResponse where
  outcome : RequestPermissionOutcome
  deriving DecidableEq, Repr

/-- The result of a prompt. -/
inductive StopReason where
  | endTurn
  | cancelled
  deriving DecidableEq, Repr

/-- The blocks of a prompt, as far as the session reads them itself. -/
inductive ContentBlock where
  | text (text : String)
  | image (mimeType data : String)
  | resourceLink (name uri : String)
  | textResource (text : String) (mimeType : Option String) (uri : String)
  | blobResource (blob : String) (mimeType : Option String) (uri : String)
  | other
  deriving DecidableEq, Repr

structure PromptRequest where
  prompt : List ContentBlock
  deriving DecidableEq, Repr

end CodexAcp.Protocol
