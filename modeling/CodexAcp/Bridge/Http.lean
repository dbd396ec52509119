import CodexAcp.Bridge.Payload

/-!
# The HTTP side of the bridge

Codex posts to the bridge with a token that it got with the url. A post is handled
message by message; it waits for the lock on the connection before it passes a message
on, and for the answer after it passed on a request. Meanwhile other posts are handled,
and the connection may be replaced. `Http.step` interleaves the posts, and the calls that
move the connection, at these points: from the lock to the message being sent there is no
`await`, so this is one step.

What the web framework makes of a request is a parameter: `headerText` is a header value
as text, if it is one, and `extractJson` the payload, or the status that a body is rejected
with that is too large, or no JSON.

The handling of a post is also given in one piece, by `handlePayload`; that it comes to
the same is `requests_isolated` in `Bridge.Isolation`.
-/

namespace CodexAcp.Bridge

open CodexAcp.Lib CodexAcp.Protocol

/-! ## Requests and responses -/

abbrev StatusCode := Nat

namespace StatusCode

def ok : StatusCode := 200
def accepted : StatusCode := 202
def unauthorized : StatusCode := 401

end StatusCode

/-- The methods there is a handler for. -/
inductive Method where
  | post
  | delete
  deriving DecidableEq, Repr

/-- A request to the url of the bridge. The names of the headers are in lower case, and
their values any bytes. -/
structure HttpRequest where
  method : Method
  headers : List (String × List UInt8)
  body : List UInt8

structure HttpResponse where
  status : StatusCode
  body : Option Json

/-- What a bridge is set up with: its token, how a header and a body are read, and how an error
of the client is put in a response. -/
structure Setup where
  token : String
  headerText : List UInt8 → Option String
  extractJson : HttpRequest → Except StatusCode Json
  errorValue : Error → Json

/-- The token of a request is the bridge's. Of several headers with the name the first counts. -/
def Setup.bridgeTokenAuthorized (setup : Setup) (headers : List (String × List UInt8)) : Bool :=
  ((headers.lookup bridgeAuthHeader).bind setup.headerText).any (· = setup.token)

/-! ## Handling a post -/

/-- A message before anything is waited for: it is refused, or is to be passed on. -/
inductive Prepared where
  | refused (response : Json)
  | forwards (id : Option Json) (method : String) (params : Option Members)

def prepareMessage (message : Json) : Prepared :=
  match message.asObject with
  | none => .refused (jsonRpcError none "-32600" "JSON-RPC message must be an object" none)
  | some object =>
    let id := Json.get object "id"
    match (Json.get object "method").bind Json.asStr with
    | none => .refused (jsonRpcError id "-32600" "JSON-RPC message method must be a string" none)
    | some method =>
      match mcpParams (Json.get object "params") with
      | .error message => .refused (jsonRpcError id "-32602" message none)
      | .ok params => .forwards id method params

/-- A message passed on, and its answer if it is one that is answered and was. -/
abbrev Exchanged := Forwarded × Option (Except Error Json)

/-- A post that waits, with a message in hand. -/
structure Handling where
  payload : Json
  responses : List Json
  seen : List Exchanged
  id : Option Json
  method : String
  params : Option Members
  rest : List Json
  /-- The message in hand, once it was passed on and its answer is waited for. -/
  awaited : Option Forwarded := none

/-- What became of a request. -/
inductive HandlerState where
  | handling (h : Handling)
  | responded (response : HttpResponse)
  /-- The caller went away. -/
  | dropped

/-- The reply to a payload whose messages have these responses. -/
def payloadReply (payload : Json) (responses : List Json) : Option Json :=
  match payload.asArray with
  | some [] => some (jsonRpcError none "-32600" "JSON-RPC batch must not be empty" none)
  | some _ => batchReply responses
  | none => responses.head?

def mcpPostResponse : Option Json → HttpResponse
  | some response => { status := .ok, body := some response }
  | none => { status := .accepted, body := none }

/-- Handle the messages to the next one that is passed on, or to the end. -/
def proceed (payload : Json) (seen : List Exchanged) : List Json → List Json → HandlerState
  | responses, [] => .responded (mcpPostResponse (payloadReply payload responses))
  | responses, message :: rest =>
    match prepareMessage message with
    | .refused response => proceed payload seen (responses ++ [response]) rest
    | .forwards id method params =>
      .handling { payload, responses, seen, id, method, params, rest }

namespace Setup

variable (setup : Setup)

def handleMcpPost (request : HttpRequest) : HandlerState :=
  match setup.extractJson request with
  | .error status => .responded { status, body := none }
  | .ok payload => proceed payload [] [] (messages payload)

def handleMcpDelete : HandlerState := .responded { status := .accepted, body := none }

/-- A request that comes in: the token is looked at before anything else. -/
def requireBridgeToken (request : HttpRequest) : HandlerState :=
  if setup.bridgeTokenAuthorized request.headers then
    match request.method with
    | .post => setup.handleMcpPost request
    | .delete => handleMcpDelete
  else .responded { status := .unauthorized, body := none }

/-- The response to a request that was passed on. -/
def forwardedResponse (id : Json) : Except Error Json → Json
  | .ok result => .object [("jsonrpc", .string "2.0"), ("id", id), ("result", result)]
  | .error error => jsonRpcErrorValue id (setup.errorValue error)

end Setup

namespace Handling

/-- The message in hand, as it is passed on over a connection. -/
def message (h : Handling) (connectionId : McpConnectionId) : Forwarded :=
  { connectionId, method := h.method, params := h.params, answered := h.id.isSome }

/-- It was passed on: a request is waited for, a notification is not. -/
def forwarded (h : Handling) (f : Forwarded) : HandlerState :=
  match h.id with
  | some _ => .handling { h with awaited := some f }
  | none => proceed h.payload (h.seen ++ [(f, none)]) h.responses h.rest

/-- The answer is there. -/
def answered (setup : Setup) (h : Handling) (f : Forwarded) (id : Json)
    (result : Except Error Json) : HandlerState :=
  proceed h.payload (h.seen ++ [(f, some result)])
    (h.responses ++ [setup.forwardedResponse id result]) h.rest

end Handling

/-! ## The server -/

/-- A request and what became of it. -/
structure Exchange where
  request : HttpRequest
  handler : HandlerState

/-- The bridge, the requests in the order they came in, all messages passed on, and all answers
that came back, each with the number of the request it is of. -/
structure Http where
  bridge : AcpMcpBridge := {}
  exchanges : List Exchange := []
  log : List (Nat × Forwarded) := []
  answers : List (Nat × Except Error Json) := []

inductive HttpLabel where
  | bridge (label : Label)
  | arrive (request : HttpRequest)
  | lock (n : Nat)
  | answer (n : Nat) (result : Except Error Json)
  | drop (n : Nat)

namespace Http

/-- The messages passed on of a request. -/
def own (s : Http) (n : Nat) : List Forwarded :=
  s.log.filterMap fun entry => if entry.1 = n then some entry.2 else none

/-- The answers that came back for a request. -/
def got (s : Http) (n : Nat) : List (Except Error Json) :=
  s.answers.filterMap fun entry => if entry.1 = n then some entry.2 else none

/-- A handler went on. -/
def goOn (s : Http) (n : Nat) (request : HttpRequest) (handler : HandlerState) : Http :=
  { s with exchanges := s.exchanges.set n { request, handler } }

/-- The lock on the connection is there: the message in hand is passed on. -/
def lock (s : Http) (n : Nat) (request : HttpRequest) (h : Handling) : Option Http :=
  match h.awaited, s.bridge.inner with
  | none, .running connectionId =>
    some { s.goOn n request (h.forwarded (h.message connectionId)) with
      log := s.log ++ [(n, h.message connectionId)] }
  | _, _ => none

def answer (setup : Setup) (s : Http) (n : Nat) (request : HttpRequest) (h : Handling)
    (result : Except Error Json) : Option Http :=
  match h.awaited, h.id with
  | some f, some id =>
    some { s.goOn n request (h.answered setup f id result) with
      answers := s.answers ++ [(n, result)] }
  | _, _ => none

def step (setup : Setup) (s : Http) : HttpLabel → Option Http
  | .bridge label => (s.bridge.step label).map fun bridge => { s with bridge }
  | .arrive request =>
    match s.bridge.inner with
    | .running _ =>
      some { s with exchanges := s.exchanges ++ [⟨request, setup.requireBridgeToken request⟩] }
    | _ => none
  | .lock n =>
    match s.exchanges[n]? with
    | some ⟨request, .handling h⟩ => s.lock n request h
    | _ => none
  | .answer n result =>
    match s.exchanges[n]? with
    | some ⟨request, .handling h⟩ => s.answer setup n request h result
    | _ => none
  | .drop n =>
    match s.exchanges[n]? with
    | some ⟨request, .handling _⟩ => some (s.goOn n request .dropped)
    | _ => none

end Http

end CodexAcp.Bridge
