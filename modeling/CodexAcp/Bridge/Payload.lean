import CodexAcp.Bridge.AcpMcpBridge
import Mathlib.Data.List.ReduceOption

/-!
# JSON-RPC over the bridge

Codex posts a JSON-RPC message, or a batch of them, to the bridge, which passes
each of them on over its ACP connection and answers with what came back. A
request has an id and is answered; a notification has none and is not. What has
no method is answered with an error of its own.

> `payload_corresponds_iff`: the answers correspond to the messages exactly if no
> notification has parameters that ACP cannot carry.
> `handlePayload_sent`: what is passed on is passed on once and in order.
-/

namespace CodexAcp.Bridge

open CodexAcp.Protocol

/-! ## Messages -/

abbrev Members := List (String × Json)

/-- A message passed on: over which connection, and whether an answer is waited for. -/
structure Forwarded where
  connectionId : McpConnectionId
  method : String
  params : Option Members
  answered : Bool

/-- The client and the other calls on the bridge: after the messages passed on so far, the
connection the bridge is on, and what the last of them is answered with. -/
structure Peer where
  connectionId : List Forwarded → McpConnectionId
  answer : List Forwarded → Except Error Json
  /-- An ACP error as JSON. -/
  errorValue : Error → Json

def jsonRpcErrorValue (id error : Json) : Json :=
  .object [("jsonrpc", .string "2.0"), ("id", id), ("error", error)]

def jsonRpcError (id : Option Json) (code message : String) (data : Option Json) : Json :=
  jsonRpcErrorValue (id.getD .null)
    (.object ([("code", .number code), ("message", .string message)] ++
      (data.map fun data => ("data", data)).toList))

def mcpParams : Option Json → Except String (Option Members)
  | none | some .null => .ok none
  | some (.object params) => .ok (some params)
  | some _ => .error "MCP-over-ACP only supports object params"

section Peer

variable (peer : Peer)

/-- Pass a message on. -/
def forward (method : String) (params : Option Members) (answered : Bool) (sent : List Forwarded) :
    List Forwarded :=
  sent ++ [{ connectionId := peer.connectionId sent, method, params, answered }]

def forwardRequest (id : Json) (method : String) (params : Option Members)
    (sent : List Forwarded) : Json × List Forwarded :=
  let sent := forward peer method params true sent
  match peer.answer sent with
  | .ok result => (.object [("jsonrpc", .string "2.0"), ("id", id), ("result", result)], sent)
  | .error error => (jsonRpcErrorValue id (peer.errorValue error), sent)

/-- The response to a message, if it has one. -/
def handleMessage (message : Json) (sent : List Forwarded) : Option Json × List Forwarded :=
  match message.asObject with
  | none => (some (jsonRpcError none "-32600" "JSON-RPC message must be an object" none), sent)
  | some object =>
    let id := Json.get object "id"
    match (Json.get object "method").bind Json.asStr with
    | none =>
      (some (jsonRpcError id "-32600" "JSON-RPC message method must be a string" none), sent)
    | some method =>
      match mcpParams (Json.get object "params") with
      | .error message => (some (jsonRpcError id "-32602" message none), sent)
      | .ok params =>
        match id with
        | some id =>
          let (response, sent) := forwardRequest peer id method params sent
          (some response, sent)
        -- Whether a notification could be sent is only logged.
        | none => (none, forward peer method params false sent)

/-- The responses to the messages of a batch. -/
def handleItems : List Json → List Forwarded → List Json × List Forwarded
  | [], sent => ([], sent)
  | item :: items, sent =>
    let (response, sent) := handleMessage peer item sent
    let (responses, sent) := handleItems items sent
    (response.toList ++ responses, sent)

/-- A batch is answered where one of its messages is. -/
def batchReply (responses : List Json) : Option Json :=
  if responses.isEmpty then none else some (.array responses)

def handlePayload (payload : Json) (sent : List Forwarded) : Option Json × List Forwarded :=
  match payload.asArray with
  | some [] => (some (jsonRpcError none "-32600" "JSON-RPC batch must not be empty" none), sent)
  | some items =>
    let (responses, sent) := handleItems peer items sent
    (batchReply responses, sent)
  | none => handleMessage peer payload sent

end Peer

/-! ## What JSON-RPC asks for -/

/-- A response with that id: a result or an error. -/
def IsResponse (id response : Json) : Prop :=
  ∃ members, response = .object members ∧ Json.get members "jsonrpc" = some (.string "2.0") ∧
    Json.get members "id" = some id ∧
    (Json.get members "result").isSome = !(Json.get members "error").isSome

/-- An error with a null id. -/
def IsNullError (response : Json) : Prop :=
  IsResponse .null response ∧
    ∀ members, response.asObject = some members → (Json.get members "error").isSome = true

/-- What a message contributes to the reply. -/
def Contributes (message : Json) (response : Option Json) : Prop :=
  match message.asObject with
  | none => ∃ r, response = some r ∧ IsNullError r
  | some object =>
    match Json.get object "id" with
    | some id => ∃ r, response = some r ∧ IsResponse id r
    | none =>
      if ((Json.get object "method").bind Json.asStr).isSome then response = none
      else ∃ r, response = some r ∧ IsNullError r

/-- The reply has what each message contributes, in their order. -/
def Corresponds (payload : Json) (reply : Option Json) : Prop :=
  match payload.asArray with
  | some [] => ∃ r, reply = some r ∧ IsNullError r
  | some items =>
    ∃ responses, List.Forall₂ Contributes items responses ∧
      reply = batchReply responses.reduceOption
  | none => Contributes payload reply

/-- A method and no id. -/
def isNotification (message : Json) : Bool :=
  message.asObject.any fun object =>
    (Json.get object "id").isNone && ((Json.get object "method").bind Json.asStr).isSome

/-- The parameters are ones that ACP can carry. -/
def hasObjectParams (message : Json) : Bool :=
  message.asObject.any fun object => (mcpParams (Json.get object "params")).isOk

/-- The messages of a payload. -/
def messages (payload : Json) : List Json := payload.asArray.getD [payload]

/-- A message as it is passed on, if it is: its method, its parameters, and whether an answer
is waited for. -/
def call (message : Json) : Option (String × Option Members × Bool) :=
  message.asObject.bind fun object =>
    ((Json.get object "method").bind Json.asStr).bind fun method =>
      match mcpParams (Json.get object "params") with
      | .ok params => some (method, params, (Json.get object "id").isSome)
      | .error _ => none

def Forwarded.call (forwarded : Forwarded) : String × Option Members × Bool :=
  (forwarded.method, forwarded.params, forwarded.answered)

/-- A notification that is answered: ACP cannot carry its parameters. -/
def isAnsweredNotification (message : Json) : Bool :=
  isNotification message && !hasObjectParams message

/-! ## One message -/

section Peer

variable {peer : Peer}

theorem isResponse_error (id error : Json) : IsResponse id (jsonRpcErrorValue id error) :=
  ⟨_, rfl, rfl, rfl, rfl⟩

theorem isNullError_jsonRpcError (code message : String) (data : Option Json) :
    IsNullError (jsonRpcError none code message data) := by
  refine ⟨isResponse_error _ _, fun members hmembers => ?_⟩
  cases hmembers
  rfl

theorem forwardRequest_isResponse (id : Json) (method : String) (params : Option Members)
    (sent : List Forwarded) : IsResponse id (forwardRequest peer id method params sent).1 := by
  unfold forwardRequest
  dsimp only
  cases peer.answer (forward peer method params true sent) with
  | ok result =>
    exact ⟨[("jsonrpc", .string "2.0"), ("id", id), ("result", result)], rfl, rfl, rfl, rfl⟩
  | error error => exact isResponse_error _ _

/-- A message contributes what it should, unless it is a notification that is answered. -/
theorem handleMessage_contributes_iff (message : Json) (sent : List Forwarded) :
    Contributes message (handleMessage peer message sent).1 ↔
      isAnsweredNotification message = false := by
  unfold Contributes handleMessage isAnsweredNotification isNotification hasObjectParams
  cases hobject : message.asObject with
  | none =>
    refine ⟨fun _ => rfl, fun _ => ⟨_, rfl, isNullError_jsonRpcError _ _ _⟩⟩
  | some object =>
    dsimp only [Option.any_some]
    cases hmethod : (Json.get object "method").bind Json.asStr with
    | none =>
      refine ⟨fun _ => by simp, fun _ => ?_⟩
      cases Json.get object "id" with
      | some id => exact ⟨_, rfl, isResponse_error _ _⟩
      | none => exact ⟨_, rfl, isNullError_jsonRpcError _ _ _⟩
    | some method =>
      cases hparams : mcpParams (Json.get object "params") with
      | error text =>
        cases Json.get object "id" with
        | some id =>
          refine ⟨fun _ => rfl, fun _ => ⟨_, rfl, isResponse_error _ _⟩⟩
        | none => exact ⟨nofun, nofun⟩
      | ok params =>
        cases Json.get object "id" with
        | some id =>
          refine ⟨fun _ => rfl, fun _ => ⟨_, rfl, forwardRequest_isResponse _ _ _ _⟩⟩
        | none => exact ⟨fun _ => rfl, fun _ => rfl⟩

/-- What should be contributed to the reply is contributed but by notifications. -/
theorem Contributes.isSome {message : Json} {response : Option Json}
    (h : Contributes message response) : response.isSome = !isNotification message := by
  unfold Contributes at h
  unfold isNotification
  cases hobject : message.asObject with
  | none =>
    rw [hobject] at h
    obtain ⟨r, rfl, -⟩ := h
    rfl
  | some object =>
    rw [hobject] at h
    dsimp only [Option.any_some] at h ⊢
    cases hid : Json.get object "id" with
    | some id =>
      rw [hid] at h
      obtain ⟨r, rfl, -⟩ := h
      rfl
    | none =>
      rw [hid] at h
      dsimp only at h
      cases hmethod : ((Json.get object "method").bind Json.asStr).isSome with
      | true =>
        rw [hmethod, if_pos rfl] at h
        rw [h]
        rfl
      | false =>
        rw [hmethod, if_neg Bool.false_ne_true] at h
        obtain ⟨r, rfl, -⟩ := h
        rfl

/-- A notification whose parameters ACP cannot carry gets an error, like a request. -/
theorem handleMessage_answered {message : Json} (h : isAnsweredNotification message = true)
    (sent : List Forwarded) : (handleMessage peer message sent).1.isSome = true := by
  unfold isAnsweredNotification isNotification hasObjectParams at h
  unfold handleMessage
  cases hobject : message.asObject with
  | none => rfl
  | some object =>
    rw [hobject] at h
    dsimp only [Option.any_some] at h ⊢
    cases hmethod : (Json.get object "method").bind Json.asStr with
    | none => rfl
    | some method =>
      cases hparams : mcpParams (Json.get object "params") with
      | error text => rfl
      | ok params =>
        rw [hparams] at h
        simp [Except.isOk, Except.toBool] at h

theorem handleMessage_isSome (message : Json) (sent : List Forwarded) :
    (handleMessage peer message sent).1.isSome =
      (!isNotification message || isAnsweredNotification message) := by
  cases hanswered : isAnsweredNotification message with
  | false =>
    rw [Bool.or_false]
    exact Contributes.isSome ((handleMessage_contributes_iff message sent).mpr hanswered)
  | true =>
    rw [Bool.or_true]
    exact handleMessage_answered hanswered sent

/-! ## Batches -/

/-- The response is what the message was answered with, after some others. -/
def Handled (peer : Peer) (message : Json) (response : Option Json) : Prop :=
  ∃ sent, response = (handleMessage peer message sent).1

theorem handleItems_cons (item : Json) (items : List Json) (sent : List Forwarded) :
    handleItems peer (item :: items) sent =
      ((handleMessage peer item sent).1.toList ++
        (handleItems peer items (handleMessage peer item sent).2).1,
        (handleItems peer items (handleMessage peer item sent).2).2) := rfl

theorem length_reduceOption_cons (response : Option Json) (responses : List (Option Json)) :
    (response :: responses).reduceOption.length =
      response.isSome.toNat + responses.reduceOption.length := by
  cases response with
  | none => exact (Nat.zero_add _).symm
  | some response => exact Nat.add_comm _ _

theorem handleItems_handled (items : List Json) (sent : List Forwarded) :
    ∃ responses, List.Forall₂ (Handled peer) items responses ∧
      (handleItems peer items sent).1 = responses.reduceOption := by
  induction items generalizing sent with
  | nil => exact ⟨[], .nil, rfl⟩
  | cons item items ih =>
    obtain ⟨responses, hhandled, hresponses⟩ := ih (handleMessage peer item sent).2
    refine ⟨(handleMessage peer item sent).1 :: responses, .cons ⟨sent, rfl⟩ hhandled, ?_⟩
    rw [handleItems_cons, hresponses]
    cases (handleMessage peer item sent).1 <;> rfl

/-- Every answered notification is one response too many. -/
theorem length_handled {items : List Json} {expected responses : List (Option Json)}
    (hexpected : List.Forall₂ Contributes items expected)
    (hhandled : List.Forall₂ (Handled peer) items responses) :
    responses.reduceOption.length =
      expected.reduceOption.length + items.countP isAnsweredNotification := by
  induction hexpected generalizing responses with
  | nil =>
    cases hhandled
    rfl
  | @cons item response items expected hcontributes hexpected ih =>
    cases hhandled with
    | cons hfirst hrest =>
      obtain ⟨sent, rfl⟩ := hfirst
      rw [length_reduceOption_cons, length_reduceOption_cons, ih hrest, List.countP_cons,
        handleMessage_isSome, hcontributes.isSome]
      -- only a notification can be answered without need
      have hnotification : isAnsweredNotification item = true → isNotification item = true :=
        fun h => (Bool.and_eq_true_iff.mp h).1
      cases hanswered : isAnsweredNotification item with
      | false => simp; omega
      | true =>
        rw [hnotification hanswered]
        simp
        omega

theorem batchReply_injective : Function.Injective batchReply := by
  intro responses responses' h
  cases responses <;> cases responses' <;> simp_all [batchReply]

/-- A batch is answered as it should be exactly if none of its notifications is answered. -/
theorem handleItems_corresponds_iff (items : List Json) (sent : List Forwarded) :
    (∃ responses, List.Forall₂ Contributes items responses ∧
      batchReply (handleItems peer items sent).1 = batchReply responses.reduceOption) ↔
      ∀ item ∈ items, isAnsweredNotification item = false := by
  obtain ⟨actual, hactual, hresponses⟩ := @handleItems_handled peer items sent
  constructor
  · rintro ⟨expected, hexpected, hreply⟩
    have hlength := length_handled hexpected hactual
    rw [← hresponses, batchReply_injective hreply] at hlength
    have hzero : items.countP isAnsweredNotification = 0 := by omega
    intro item hitem
    exact Bool.not_eq_true _ ▸ List.countP_eq_zero.mp hzero item hitem
  · intro h
    refine ⟨actual, ?_, congrArg batchReply hresponses⟩
    clear hresponses
    induction hactual with
    | nil => exact .nil
    | cons hfirst _ ih =>
      obtain ⟨sent, rfl⟩ := hfirst
      rw [List.forall_mem_cons] at h
      exact .cons ((handleMessage_contributes_iff _ sent).mpr h.1) (ih h.2)

/-! ## What is passed on -/

theorem forwardRequest_sent (id : Json) (method : String) (params : Option Members)
    (sent : List Forwarded) :
    (forwardRequest peer id method params sent).2 = forward peer method params true sent := by
  unfold forwardRequest
  dsimp only
  cases peer.answer (forward peer method params true sent) <;> rfl

theorem handleMessage_sent (message : Json) (sent : List Forwarded) :
    ∃ more, (handleMessage peer message sent).2 = sent ++ more ∧
      more.map Forwarded.call = (call message).toList := by
  unfold handleMessage call
  cases message.asObject with
  | none => exact ⟨[], (List.append_nil _).symm, rfl⟩
  | some object =>
    dsimp only [Option.bind_some]
    cases (Json.get object "method").bind Json.asStr with
    | none => exact ⟨[], (List.append_nil _).symm, rfl⟩
    | some method =>
      dsimp only [Option.bind_some]
      cases mcpParams (Json.get object "params") with
      | error text => exact ⟨[], (List.append_nil _).symm, rfl⟩
      | ok params =>
        cases Json.get object "id" with
        | none => exact ⟨_, rfl, rfl⟩
        | some id => exact ⟨_, forwardRequest_sent id method params sent, rfl⟩

/-- **The calls of a payload** are passed on in order, each of them once. -/
theorem handleItems_sent (items : List Json) (sent : List Forwarded) :
    ∃ more, (handleItems peer items sent).2 = sent ++ more ∧
      more.map Forwarded.call = items.filterMap call := by
  induction items generalizing sent with
  | nil => exact ⟨[], (List.append_nil _).symm, rfl⟩
  | cons item items ih =>
    obtain ⟨first, hfirst, hcall⟩ := @handleMessage_sent peer item sent
    obtain ⟨more, hmore, hcalls⟩ := ih (handleMessage peer item sent).2
    refine ⟨first ++ more, ?_, ?_⟩
    · rw [handleItems_cons, hmore, hfirst, List.append_assoc]
    · rw [List.map_append, hcall, hcalls]
      cases hcall : call item <;> simp [hcall]

theorem handlePayload_sent (payload : Json) (sent : List Forwarded) :
    ∃ more, (handlePayload peer payload sent).2 = sent ++ more ∧
      more.map Forwarded.call = (messages payload).filterMap call := by
  unfold handlePayload messages
  cases payload.asArray with
  | none =>
    obtain ⟨more, hmore, hcall⟩ := @handleMessage_sent peer payload sent
    refine ⟨more, hmore, ?_⟩
    rw [hcall, Option.getD_none]
    cases hcall : call payload <;> simp [hcall]
  | some items =>
    cases items with
    | nil => exact ⟨[], (List.append_nil _).symm, rfl⟩
    | cons item items => exact handleItems_sent (item :: items) sent

end Peer

/-- **JSON-RPC.** The reply to a payload corresponds to its messages, whatever the calls that
are passed on come to, exactly if ACP can carry the parameters of every notification. -/
theorem payload_corresponds_iff (peer : Peer) (payload : Json) (sent : List Forwarded) :
    Corresponds payload (handlePayload peer payload sent).1 ↔
      ∀ message ∈ messages payload, isNotification message = true →
        hasObjectParams message = true := by
  have hcondition : ∀ message, (isNotification message = true → hasObjectParams message = true) ↔
      isAnsweredNotification message = false := by
    intro message
    unfold isAnsweredNotification
    cases isNotification message <;> cases hasObjectParams message <;> decide
  simp only [hcondition]
  unfold Corresponds handlePayload messages
  cases hpayload : payload.asArray with
  | none =>
    rw [Option.getD_none, List.forall_mem_singleton]
    exact handleMessage_contributes_iff payload sent
  | some items =>
    rw [Option.getD_some]
    cases items with
    | nil => exact ⟨fun _ => nofun, fun _ => ⟨_, rfl, isNullError_jsonRpcError _ _ _⟩⟩
    | cons item items => exact handleItems_corresponds_iff (item :: items) sent

/-- A notification with an array of parameters is answered with an error. -/
theorem notification_answered :
    ¬ Corresponds (.object [("method", .string "notifications/cancelled"), ("params", .array [])])
      (handlePayload ⟨fun _ => "", fun _ => .ok .null, fun _ => .null⟩
        (.object [("method", .string "notifications/cancelled"), ("params", .array [])]) []).1 := by
  intro h
  exact absurd h nofun

end CodexAcp.Bridge
