import CodexAcp.Agent.McpServers
import CodexAcp.Bridge.AcpMcpBridge
import CodexAcp.Lib.Ownership
import CodexAcp.SessionMode

/-!
# The configuration of a session

A session is opened with the agent's own configuration, its working directory and
the MCP servers the client offers. For a server that is reached over ACP a bridge is
started first, since the server's entry needs its URL; the bridges belong to whoever
holds the configuration. A server whose name the user has configured is left out,
and its bridge with it.

What the bridges cost is kept in a ledger: which were started and which were shut
down. A start that fails leaves nothing behind.
-/

namespace CodexAcp.Agent

open CodexAcp.Lib CodexAcp.Protocol

/-! ## Working directories -/

def metaValue (metadata : Option Meta) (key : String) : Option Json :=
  metadata.bind (Json.get · key)

def additionalDirectoriesFromMeta (metadata : Option Meta) : List String :=
  match metaValue metadata "additionalRoots" <|> metaValue metadata "additionalDirectories" with
  | some value => (value.asArray.getD []).filterMap Json.asStr
  | none => []

section Directories

variable (lib : McpLibrary)

/-- Keep the directories that were not seen yet, if all of them are absolute. -/
def newDirectories (seen : List (List Path.Component)) : List String → Except Error (List String)
  | [] => .ok []
  | directory :: rest =>
    if !Path.isAbsolute directory then
      .error (Error.invalidParams.withData
        ("additionalDirectories entries must be absolute: " ++ directory))
    else do
      let _ ← (lib.absolutePath directory).mapError fun err =>
        Error.invalidParams.withData
          ("invalid additionalDirectories entry " ++ directory ++ ": " ++ err)
      -- A directory that was seen is checked all the same, and then dropped.
      if Path.components directory ∈ seen then newDirectories seen rest
      else do
        let normalized ← newDirectories (Path.components directory :: seen) rest
        .ok (directory :: normalized)

def readAdditionalDirectories (cwd : String) (additionalDirectories : List String)
    (metadata : Option Meta) : Except Error (List String) :=
  newDirectories lib [Path.components cwd]
    (if additionalDirectories.isEmpty then additionalDirectoriesFromMeta metadata
      else additionalDirectories)

end Directories

/-! ## Configuration -/

/-- A provider of models; what is never set is left out. -/
structure ModelProviderInfo where
  name : String
  baseUrl : Option String
  httpHeaders : Option (List (String × String))
  deriving DecidableEq, Repr

/-- The agent's configuration, as far as opening a session touches it. -/
structure AgentConfig where
  session : Config
  workspaceRoots : List String
  workspaceRootsExplicit : Bool
  modelProviderId : String
  modelProvider : ModelProviderInfo
  modelProviders : Dict String ModelProviderInfo
  mcpServers : Constrained (Dict String McpServerConfig)

/-- What opening a session reads of the world: Codex, the environment, the outcomes
of the calls to the client that start a bridge. -/
structure SessionEnv where
  codex : Codex
  lib : McpLibrary
  /-- The configuration the agent was started with. -/
  config : AgentConfig
  /-- `INITIAL_AGENT_MODE`. -/
  initialAgentMode : Option String
  /-- `DISABLE_MCP_CONFIG_FILTERING`. -/
  disableMcpConfigFiltering : Option String
  /-- `AcpMcpBridge::start`: the bridge's URL and its token. -/
  startBridge : Nat → Except Error (String × String)

/-- The header a gateway tells its clients apart by. -/
def customGatewayFeatureHeader : String := "X-Client-Feature-ID"

/-- The headers sent to a gateway: its own, and the agent's unless it is among them. -/
def gatewayHeaders (headers : List (String × String)) : List (String × String) :=
  if headers.any (·.1 = customGatewayFeatureHeader) then headers
  else headers ++ [(customGatewayFeatureHeader, "codex")]

namespace AgentConfig

/-- Working directories and mode of a session. -/
def forSession (env : SessionEnv) (cwd : String) (additionalDirectories : List String)
    (config : AgentConfig) : Except Error AgentConfig := do
  let cwd ← (env.lib.absolutePath cwd).mapError Error.internalError.withData
  let (session, _) ← (applyInitialAgentModeFromEnv env.codex env.initialAgentMode
    { config.session with cwd }).mapError Error.internalError.withData
  let directories ← additionalDirectories.mapM fun directory =>
    (env.lib.absolutePath directory).mapError Error.internalError.withData
  .ok { config with session, workspaceRoots := cwd :: directories, workspaceRootsExplicit := true }

/-- Let the models come through the gateway. -/
def useGateway (gateway : Option GatewayAuthConfig) (config : AgentConfig) : AgentConfig :=
  match gateway with
  | none => config
  | some gateway =>
    let provider : ModelProviderInfo :=
      { name := gateway.providerName
        baseUrl := some gateway.baseUrl
        httpHeaders := some (gatewayHeaders gateway.headers) }
    { config with
      modelProviderId := customGatewayProviderId
      modelProvider := provider
      modelProviders := config.modelProviders.insert customGatewayProviderId provider }

end AgentConfig

/-! ## Bridges -/

/-- A bridge the agent started, as the agent holds it. What goes on inside of it is
`Bridge.AcpMcpBridge`. -/
structure BridgeHandle where
  /-- Which start it came from. -/
  start : Nat
  serverId : String
  url : String
  token : String
  deriving DecidableEq, Repr

def BridgeHandle.httpHeaders (bridge : BridgeHandle) : Dict String String :=
  Dict.collect [(Bridge.bridgeAuthHeader, bridge.token)]

/-- How many starts there were, which bridges they gave, and which were shut down. -/
structure BridgeState where
  starts : Nat := 0
  ledger : Ledger BridgeHandle := {}
  deriving DecidableEq

namespace BridgeState

/-- Start a bridge to a server of the client. -/
def start (env : SessionEnv) (serverId : String) : Handler BridgeState Error BridgeHandle :=
  fun s =>
    match env.startBridge s.starts with
    | .error err => (.error err, { s with starts := s.starts + 1 })
    | .ok (url, token) =>
      let bridge := { start := s.starts, serverId, url, token }
      (.ok bridge, { starts := s.starts + 1, ledger := s.ledger.acquire bridge })

/-- Shut bridges down, one after the other. -/
def shutdownMcpBridges (bridges : List BridgeHandle) : Handler BridgeState Error Unit :=
  Handler.update fun s => { s with ledger := s.ledger.releaseAll bridges }

end BridgeState

open BridgeState

/-! ## The session's servers -/

/-- The servers so far, and the bridges some of them need. -/
structure SessionServers where
  mcpServers : Dict String McpServerConfig
  mcpBridges : List BridgeHandle

/-- Which servers a client cannot add: the configured ones, unless filtering is off. -/
structure ConfiguredServers where
  mcpServers : Dict String McpServerConfig
  filteringDisabled : Bool

namespace ConfiguredServers

def conflicts (configured : ConfiguredServers) (name : String) : Bool :=
  shouldFilterMcpConflict configured.mcpServers name configured.filteringDisabled

end ConfiguredServers

section Build

variable (env : SessionEnv) (configured : ConfiguredServers) (cwd : String)

/-- Add a server that is reached over ACP. The bridges so far are shut down with the
one at hand when it cannot be added. -/
def addAcpMcpServer (acc : SessionServers) (server : McpServerAcp) :
    Handler BridgeState Error SessionServers := do
  let bridge ← Handler.onError (start env server.serverId) (shutdownMcpBridges acc.mcpBridges)
  let converted ← Handler.onError
    (Handler.lift (convertAcpMcpServer env.lib server bridge.url bridge.httpHeaders))
    (shutdownMcpBridges (bridge :: acc.mcpBridges))
  let (name, config) ← Handler.onError (Handler.lift (buildMcpServerConfig env.lib converted))
    (shutdownMcpBridges (bridge :: acc.mcpBridges))
  if configured.conflicts name then do
    -- A configured server of that name wins: the bridge is not needed.
    shutdownMcpBridges [bridge]
    pure acc
  else
    pure
      { mcpServers := acc.mcpServers.insert name config
        mcpBridges := acc.mcpBridges ++ [bridge] }

/-- Add a server that needs no bridge, if it is supported. -/
def addPlainMcpServer (acc : SessionServers) (server : McpServer) :
    Handler BridgeState Error SessionServers := do
  let converted ← Handler.onError (Handler.lift (convertMcpServer env.lib cwd server))
    (shutdownMcpBridges acc.mcpBridges)
  match converted with
  | none => pure acc
  | some (name, config) =>
    if configured.conflicts name then pure acc
    else pure { acc with mcpServers := acc.mcpServers.insert name config }

def addMcpServer (acc : SessionServers) : McpServer → Handler BridgeState Error SessionServers
  | .acp server => addAcpMcpServer env configured acc server
  | server => addPlainMcpServer env configured cwd acc server

/-- Add the client's servers in order. -/
def addMcpServers (acc : SessionServers) :
    List McpServer → Handler BridgeState Error SessionServers
  | [] => pure acc
  | server :: servers => do
    let acc ← addMcpServer env configured cwd acc server
    addMcpServers acc servers

end Build

/-- The configuration of a session, and the bridges its servers need. -/
structure SessionConfigBuild where
  config : AgentConfig
  mcpBridges : List BridgeHandle

/-- Which servers the user has configured. -/
def SessionEnv.configured (env : SessionEnv) (config : AgentConfig) : ConfiguredServers where
  mcpServers := config.mcpServers.value
  filteringDisabled := envFlagEnabled env.disableMcpConfigFiltering

/-- Build the configuration; reading the gateway may fail. -/
def buildSessionConfig (env : SessionEnv) (gateway : Except Error (Option GatewayAuthConfig))
    (cwd : String) (additionalDirectories : List String) (mcpServers : List McpServer) :
    Handler BridgeState Error SessionConfigBuild := do
  let config ← Handler.lift (env.config.forSession env cwd additionalDirectories)
  let gateway ← Handler.lift gateway
  let config := config.useGateway gateway
  let servers ← addMcpServers env (env.configured config) config.session.cwd
    -- The client's servers are added to the configured ones, which are also what they may
    -- conflict with.
    { mcpServers := config.mcpServers.value, mcpBridges := [] } mcpServers
  let (answer, mcpServers) := config.mcpServers.set servers.mcpServers
  Handler.onError (Handler.lift (answer.mapError Error.internalError.withData))
    (shutdownMcpBridges servers.mcpBridges)
  pure { config := { config with mcpServers }, mcpBridges := servers.mcpBridges }

end CodexAcp.Agent
