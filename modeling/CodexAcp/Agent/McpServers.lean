import Mathlib.Data.Rat.Defs
import CodexAcp.Agent.Authentication
import CodexAcp.Lib.Dict
import CodexAcp.Lib.Path

/-!
# The client's MCP servers

A client offers MCP servers with a session; the agent writes them into Codex's
configuration. An HTTP or a stdio server is written as it is, a server reached over
ACP through the URL of its bridge; a server over SSE, and one of a kind added later,
is left out. What Codex offers beyond the protocol's own fields a client sets in the
server's `_meta`, as far as the transport has it.
-/

namespace CodexAcp.Agent

open CodexAcp.Lib CodexAcp.Protocol

/-! ## Durations -/

/-- A duration in nanoseconds. -/
abbrev Duration := Nat

/-- The nearest natural number, the even one of two. -/
def roundHalfEven (q : Rat) : Nat :=
  let below := q.floor.toNat
  let rest := q - below
  if rest < 1 / 2 then below
  else if 1 / 2 < rest then below + 1
  else if below % 2 = 0 then below else below + 1

/-- `Duration::try_from_secs_f64`, of a number a JSON text can hold. -/
def Duration.tryFromSecsF64 (secs : Rat) : Except String Duration :=
  if secs < 0 then .error "cannot convert float seconds to Duration: value is negative"
  else if 2 ^ 64 ≤ secs then
    .error "cannot convert float seconds to Duration: value is either too big or NaN"
  else .ok (roundHalfEven (secs * 10 ^ 9))

/-! ## Servers -/

/-- An environment variable of a stdio server; Codex's configuration reads it. -/
abbrev McpServerEnvVar := Json

/-- An approval mode of Codex's tools. -/
abbrev AppToolApproval := String

/-- What a server's `_meta` may set. -/
structure CodexMcpServerMeta where
  enabled : Option Bool := none
  required : Option Bool := none
  startupTimeoutSec : Option Rat := none
  toolTimeoutSec : Option Rat := none
  supportsParallelToolCalls : Option Bool := none
  defaultToolsApprovalMode : Option AppToolApproval := none
  enabledTools : Option (List String) := none
  disabledTools : Option (List String) := none
  scopes : Option (List String) := none
  oauthResource : Option String := none
  environmentId : Option String := none
  bearerTokenEnvVar : Option String := none
  envHttpHeaders : Option (Dict String String) := none
  envVars : Option (List McpServerEnvVar) := none
  cwd : Option String := none

structure McpServerAcp where
  serverId : String
  name : String
  metadata : Option Meta := none

structure McpServerHttp where
  name : String
  url : String
  headers : List (String × String) := []
  metadata : Option Meta := none

structure McpServerStdio where
  name : String
  command : String
  args : List String := []
  env : List (String × String) := []
  metadata : Option Meta := none

/-- A server as a client offers it; the protocol lets later versions add kinds. -/
inductive McpServer where
  | acp (server : McpServerAcp)
  | http (server : McpServerHttp)
  | stdio (server : McpServerStdio)
  | sse
  | other

/-- The server that is reached over ACP, if it is one. -/
def McpServer.acp? : McpServer → Option McpServerAcp
  | acp server => some server
  | _ => none

inductive McpServerTransportConfig where
  | streamableHttp (url : String) (bearerTokenEnvVar : Option String)
      (httpHeaders : Option (Dict String String)) (envHttpHeaders : Option (Dict String String))
  | stdio (command : String) (args : List String) (env : Option (Dict String String))
      (envVars : List McpServerEnvVar) (cwd : Option String)

/-- A server as Codex's configuration holds it; what is never set is left out. -/
structure McpServerConfig where
  transport : McpServerTransportConfig
  environmentId : String
  enabled : Bool
  required : Bool
  supportsParallelToolCalls : Bool
  startupTimeoutSec : Option Duration
  toolTimeoutSec : Option Duration
  defaultToolsApprovalMode : Option AppToolApproval
  enabledTools : Option (List String)
  disabledTools : Option (List String)
  scopes : Option (List String)
  oauthResource : Option String

structure ConvertedMcpServer where
  name : String
  transport : McpServerTransportConfig
  oauthResource : Option String
  metadata : CodexMcpServerMeta

/-- What the conversion uses of the JSON decoder and of Codex's configuration. -/
structure McpLibrary where
  /-- `serde_json::from_value`, to a server's `_meta`. -/
  decodeMcpServerMeta : Json → Except String CodexMcpServerMeta
  /-- `McpServerEnvVar::validate_source`. -/
  validateSource : McpServerEnvVar → Except String Unit
  /-- `AbsolutePathBuf::try_from`. -/
  absolutePath : String → Except String String
  /-- `DEFAULT_MCP_SERVER_ENVIRONMENT_ID`. -/
  defaultMcpServerEnvironmentId : String

/-! ## Conversion -/

def normalizeMcpServerName (name : String) : String :=
  name.map fun c => if Text.isWhitespace c then '_' else c

/-- A server's duration, under the name of its field. -/
def parseMetaDuration (fieldName : String) : Option Rat → Except Error (Option Duration)
  | none => .ok none
  | some secs =>
    match Duration.tryFromSecsF64 secs with
    | .ok duration => .ok (some duration)
    | .error err => .error
        (Error.invalidParams.withData ("invalid MCP server _meta." ++ fieldName ++ ": " ++ err))

section Conversion

variable (lib : McpLibrary)

def decodeCodexMcpServerMeta (value : Json) : Except Error CodexMcpServerMeta :=
  (lib.decodeMcpServerMeta value).mapError fun err =>
    Error.invalidParams.withData ("invalid MCP server _meta: " ++ err)

/-- A server's `_meta`: an object under a key of the agent's own, or all of it. -/
def parseCodexMcpServerMeta : Option Meta → Except Error CodexMcpServerMeta
  | none => .ok {}
  | some metadata =>
    match Json.get metadata "codex" <|> Json.get metadata "codex_acp" with
    | some (.object members) => decodeCodexMcpServerMeta lib (.object members)
    | some _ => .error
        (Error.invalidParams.withData "MCP server _meta.codex must be an object")
    | none => decodeCodexMcpServerMeta lib (.object metadata)

def resolveMcpServerCwd (sessionCwd : String) : Option String → Option String
  -- A path of the server's own is taken relative to the session.
  | some path => some (Path.join sessionCwd path)
  | none => some sessionCwd

/-- Pairs as a map; none at all are left out. -/
def pairsConfig (pairs : List (String × String)) : Option (Dict String String) :=
  if pairs.isEmpty then none else some (Dict.collect pairs)

def convertHttpMcpServer (server : McpServerHttp) : Except Error ConvertedMcpServer := do
  let metadata ← parseCodexMcpServerMeta lib server.metadata
  if metadata.cwd.isSome || metadata.envVars.isSome then
    .error (Error.invalidParams.withData
      "MCP server _meta.cwd and _meta.envVars are only supported for stdio servers")
  else
    .ok
      { name := server.name
        transport := .streamableHttp server.url metadata.bearerTokenEnvVar
          (pairsConfig server.headers) metadata.envHttpHeaders
        oauthResource := metadata.oauthResource
        metadata }

def convertAcpMcpServer (server : McpServerAcp) (bridgeUrl : String)
    (httpHeaders : Dict String String) : Except Error ConvertedMcpServer := do
  let metadata ← parseCodexMcpServerMeta lib server.metadata
  if metadata.bearerTokenEnvVar.isSome || metadata.envHttpHeaders.isSome
      || metadata.oauthResource.isSome || metadata.cwd.isSome || metadata.envVars.isSome then
    .error (Error.invalidParams.withData
      "MCP server _meta bearer/env/cwd/oauth fields are not supported for ACP transport")
  else
    .ok
      { name := server.name
        transport := .streamableHttp bridgeUrl none (some httpHeaders) none
        oauthResource := none
        metadata }

def convertStdioMcpServer (sessionCwd : String) (server : McpServerStdio) :
    Except Error ConvertedMcpServer := do
  let metadata ← parseCodexMcpServerMeta lib server.metadata
  if metadata.bearerTokenEnvVar.isSome || metadata.envHttpHeaders.isSome
      || metadata.oauthResource.isSome then
    .error (Error.invalidParams.withData
      "HTTP-only MCP server meta fields are not supported for stdio servers")
  else do
    let envVars := metadata.envVars.getD []
    envVars.forM fun envVar =>
      (lib.validateSource envVar).mapError Error.invalidParams.withData
    let cwd ← (resolveMcpServerCwd sessionCwd metadata.cwd).mapM fun path =>
      (lib.absolutePath path).mapError Error.internalError.withData
    .ok
      { name := server.name
        transport := .stdio server.command server.args (pairsConfig server.env) envVars cwd
        oauthResource := none
        metadata }

/-- The entry of a server, and the name it stands under. -/
def buildMcpServerConfig (converted : ConvertedMcpServer) :
    Except Error (String × McpServerConfig) := do
  let metadata := converted.metadata
  let startupTimeoutSec ← parseMetaDuration "startupTimeoutSec" metadata.startupTimeoutSec
  let toolTimeoutSec ← parseMetaDuration "toolTimeoutSec" metadata.toolTimeoutSec
  .ok (normalizeMcpServerName converted.name,
    { transport := converted.transport
      environmentId := metadata.environmentId.getD lib.defaultMcpServerEnvironmentId
      enabled := metadata.enabled.getD true
      required := metadata.required.getD false
      supportsParallelToolCalls := metadata.supportsParallelToolCalls.getD false
      startupTimeoutSec
      toolTimeoutSec
      defaultToolsApprovalMode := metadata.defaultToolsApprovalMode
      enabledTools := metadata.enabledTools
      disabledTools := metadata.disabledTools
      scopes := metadata.scopes
      oauthResource := converted.oauthResource })

/-- The entry of a server that needs no bridge; none for a server that is left out. -/
def convertMcpServer (sessionCwd : String) :
    McpServer → Except Error (Option (String × McpServerConfig))
  | .sse => .ok none
  | .http server => do
    let converted ← convertHttpMcpServer lib server
    some <$> buildMcpServerConfig lib converted
  | .stdio server => do
    let converted ← convertStdioMcpServer lib sessionCwd server
    some <$> buildMcpServerConfig lib converted
  -- These go through their bridge, and never come here on their own.
  | .acp _ => .error
      (Error.invalidParams.withData "ACP MCP transport requires an active bridge URL")
  | .other => .ok none

end Conversion

/-- A client's server does not replace one the user configured. -/
def shouldFilterMcpConflict (configuredServers : Dict String McpServerConfig)
    (candidateName : String) (filteringDisabled : Bool) : Bool :=
  !filteringDisabled && (configuredServers.lookup candidateName).isSome

/-- A flag of the environment. -/
def envFlagEnabled (value : Option String) : Bool :=
  match value with
  | none => false
  | some value =>
    let value := Text.toAsciiLowercase (Text.trim value)
    value = "1" || value = "true" || value = "yes" || value = "on"

/-- The name an entry built from a server stands under is the server's own, normalised. -/
theorem buildMcpServerConfig_name {lib : McpLibrary} {converted : ConvertedMcpServer}
    {name : String} {config : McpServerConfig}
    (h : buildMcpServerConfig lib converted = .ok (name, config)) :
    name = normalizeMcpServerName converted.name := by
  obtain ⟨startup, _, h⟩ := except_bind_ok_inv h
  obtain ⟨tool, _, h⟩ := except_bind_ok_inv h
  cases h
  rfl

/-- A server reached over ACP keeps its name. -/
theorem convertAcpMcpServer_name {lib : McpLibrary} {server : McpServerAcp} {bridgeUrl : String}
    {httpHeaders : Dict String String} {converted : ConvertedMcpServer}
    (h : convertAcpMcpServer lib server bridgeUrl httpHeaders = .ok converted) :
    converted.name = server.name := by
  obtain ⟨metadata, _, h⟩ := except_bind_ok_inv h
  split at h
  next => cases h
  next => cases h; rfl

end CodexAcp.Agent
