import CodexAcp.Lib.Dict
import CodexAcp.Lib.Run
import CodexAcp.Protocol.Types

/-!
# A bridge to an MCP server of the client

Codex talks HTTP to its MCP servers; a server the client offers over ACP is
reached through a bridge, an HTTP server on the loopback address and a connection
the client opened for it (`mcp/connect`). The connection is replaced when the
client is, and given back (`mcp/disconnect`) when it is replaced and when the
bridge is shut down.

Three calls move the connection, and each of them waits: for the client to
connect, for the listener, for the lock on the connection, for the server to
stop, for the client to disconnect. A call in flight is a `Suspended` value;
`step` interleaves the calls at these points. That the client gives every
connection an id of its own is not part of the step: what relies on it names it
(`GivesFreshId`).
-/

namespace CodexAcp.Bridge

open CodexAcp.Lib CodexAcp.Protocol

abbrev CallId := Nat
abbrev McpConnectionId := String

/-- The header in which Codex sends the token of a bridge. -/
def bridgeAuthHeader : String := "x-codex-acp-mcp-bridge-token"

/-! ## Calls and where they wait -/

inductive Call where
  | start
  | replaceConnection
  | shutdown
  deriving DecidableEq, Repr

/-- The `await` a call stands at, with what it needs afterwards. -/
inductive Suspended where
  | startConnect
  | startBind (connectionId : McpConnectionId)
  | replaceConnect
  | replaceLock (newConnectionId : McpConnectionId)
  | replaceDisconnect
  | shutdownServer
  | shutdownLock
  | shutdownDisconnect
  deriving DecidableEq, Repr

/-- What an `await` comes back with. -/
inductive Reply where
  | ok
  | connected (connectionId : McpConnectionId)
  | failed (error : Error)

/-- Whether there is a bridge, and its connection. -/
inductive Inner where
  | absent
  | starting
  | failed
  | running (connectionId : McpConnectionId)
  deriving DecidableEq, Repr

/-! ## The bridge -/

/-- A bridge, the calls in flight, and what can be observed of it: the connections
the client opened for it, the disconnects sent, whether one of these was a
shutdown's, and how the calls returned. -/
structure AcpMcpBridge where
  inner : Inner := .absent
  /-- The task of the HTTP server, until a shutdown takes it. -/
  task : Bool := false
  inFlight : Dict CallId Suspended := ∅
  connected : List McpConnectionId := []
  disconnects : List McpConnectionId := []
  readByShutdown : Bool := false
  returned : List (Call × Except Error Unit) := []

namespace AcpMcpBridge

/-- The call waits at an `await`. -/
def suspend (n : CallId) (at' : Suspended) (b : AcpMcpBridge) : AcpMcpBridge :=
  { b with inFlight := b.inFlight.insert n at' }

/-- The call returns. -/
def finish (n : CallId) (call : Call) (result : Except Error Unit) (b : AcpMcpBridge) :
    AcpMcpBridge :=
  { b with inFlight := b.inFlight.erase n, returned := b.returned ++ [(call, result)] }

/-- The client opened a connection. -/
def connect (connectionId : McpConnectionId) (b : AcpMcpBridge) : AcpMcpBridge :=
  { b with connected := b.connected ++ [connectionId] }

/-- Ask the client to close a connection. -/
def disconnect (connectionId : McpConnectionId) (b : AcpMcpBridge) : AcpMcpBridge :=
  { b with disconnects := b.disconnects ++ [connectionId] }

/-- Run a call to its first `await`. A bridge is started once, and used only once
it is there; the first shutdown finds the server's task and waits for it. -/
def invoke (n : CallId) (b : AcpMcpBridge) : Call → Option AcpMcpBridge
  | .start =>
    match b.inner with
    | .absent => some ({ b with inner := .starting }.suspend n .startConnect)
    | _ => none
  | .replaceConnection =>
    match b.inner with
    | .running _ => some (b.suspend n .replaceConnect)
    | _ => none
  | .shutdown =>
    match b.inner with
    | .running _ =>
      if b.task then some ({ b with task := false }.suspend n .shutdownServer)
      -- A later shutdown finds the server's task taken, and goes straight to the lock.
      else some (b.suspend n .shutdownLock)
    | _ => none

/-- The lock on the connection is there: the connection is replaced, and the old one
is asked to close. -/
def replaceState (n : CallId) (newConnectionId : McpConnectionId) (b : AcpMcpBridge) :
    Option AcpMcpBridge :=
  match b.inner with
  | .running oldConnectionId =>
    some (({ b with inner := .running newConnectionId }.disconnect oldConnectionId).suspend n
      .replaceDisconnect)
  | _ => none

/-- The lock on the connection is there: the connection is asked to close, and stays. -/
def readState (n : CallId) (b : AcpMcpBridge) : Option AcpMcpBridge :=
  match b.inner with
  | .running connectionId =>
    some (({ b with readByShutdown := true }.disconnect connectionId).suspend n
      .shutdownDisconnect)
  | _ => none

/-- Run a call from the `await` it stands at to the next one, or to its return. What
the client answers a disconnect is only logged. -/
def resume (n : CallId) (b : AcpMcpBridge) : Suspended → Reply → Option AcpMcpBridge
  | .startConnect, .connected connectionId =>
    some ((b.connect connectionId).suspend n (.startBind connectionId))
  | .startConnect, .failed error =>
    some ({ b with inner := .failed }.finish n .start (.error error))
  | .startBind connectionId, .ok =>
    -- Binding is the last step that can fail: the server is spawned without an `await`.
    some ({ b with inner := .running connectionId, task := true }.finish n .start (.ok ()))
  -- The `?` of the source returns here, with the connection still open.
  | .startBind _, .failed error =>
    some ({ b with inner := .failed }.finish n .start (.error error))
  | .replaceConnect, .connected connectionId =>
    some ((b.connect connectionId).suspend n (.replaceLock connectionId))
  | .replaceConnect, .failed error => some (b.finish n .replaceConnection (.error error))
  | .replaceLock newConnectionId, .ok => b.replaceState n newConnectionId
  | .replaceDisconnect, .ok => some (b.finish n .replaceConnection (.ok ()))
  | .replaceDisconnect, .failed _ => some (b.finish n .replaceConnection (.ok ()))
  | .shutdownServer, .ok => some (b.suspend n .shutdownLock)
  | .shutdownServer, .failed _ => some (b.suspend n .shutdownLock)
  | .shutdownLock, .ok => b.readState n
  | .shutdownDisconnect, .ok => some (b.finish n .shutdown (.ok ()))
  | .shutdownDisconnect, .failed _ => some (b.finish n .shutdown (.ok ()))
  | _, _ => none

end AcpMcpBridge

/-! ## Interleavings -/

/-- A step of the bridge: a call is made, or goes on. -/
inductive Label where
  | invoke (n : CallId) (call : Call)
  | resume (n : CallId) (reply : Reply)

namespace AcpMcpBridge

/-- A call is made under an id that no call in flight has. -/
def step (b : AcpMcpBridge) : Label → Option AcpMcpBridge
  | .invoke n call =>
    match b.inFlight.lookup n with
    | some _ => none
    | none => b.invoke n call
  | .resume n reply =>
    match b.inFlight.lookup n with
    | some at' => b.resume n at' reply
    | none => none

/-- A connection the client opens has an id that none had before. -/
def GivesFreshId (b : AcpMcpBridge) : Label → Prop
  | .resume _ (.connected connectionId) => connectionId ∉ b.connected
  | _ => True

/-- Every call has returned. -/
def Quiet (b : AcpMcpBridge) : Prop := ∀ n, b.inFlight.lookup n = none

/-- A shutdown completed, or the start failed. -/
def Over (b : AcpMcpBridge) : Prop :=
  (.shutdown, .ok ()) ∈ b.returned ∨ ∃ error, (.start, .error error) ∈ b.returned

end AcpMcpBridge

end CodexAcp.Bridge
