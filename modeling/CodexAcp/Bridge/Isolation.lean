import CodexAcp.Bridge.Http

/-!
# Posts do not get in each other's way

The posts to a bridge are handled at the same time, and its connection may be replaced
meanwhile. Each of them is handled as if it were alone: what it passes on, and its
response, are those of `handlePayload` with a peer that gives the answers that came back
for it (`Matched`), and no others.

> `requests_isolated`: every response is right, in any interleaving, and is the only one
> that the messages of its request and the answers to them allow.

The invariant of a post in hand (`Sound.handling`) speaks of every peer that agrees with
what the post has seen: handling all its messages comes to handling those that are left.
-/

namespace CodexAcp.Bridge

open CodexAcp.Lib CodexAcp.Protocol

/-! ## Peers -/

/-- The peer does what a post has seen. -/
def Peer.Agrees (peer : Peer) (seen : List Exchanged) : Prop :=
  ∀ before e after, seen = before ++ e :: after →
    peer.connectionId (before.map (·.1)) = e.1.connectionId ∧
      ∀ result, e.2 = some result → peer.answer (before.map (·.1) ++ [e.1]) = result

/-- What a post has seen, as a peer. -/
def Peer.ofSeen (errorValue : Error → Json) (seen : List Exchanged) : Peer where
  connectionId sent := (seen[sent.length]?).elim "" (·.1.connectionId)
  answer sent := ((seen[sent.length - 1]?).bind (·.2)).getD (.ok .null)
  errorValue := errorValue

theorem Peer.agrees_ofSeen (errorValue : Error → Json) (seen : List Exchanged) :
    (Peer.ofSeen errorValue seen).Agrees seen := by
  rintro before e after rfl
  have hnext : (before ++ e :: after)[before.length]? = some e := by simp
  constructor
  · show ((before ++ e :: after)[(before.map (·.1)).length]?).elim "" (·.1.connectionId) = _
    rw [List.length_map, hnext]
    rfl
  · intro result hresult
    show (((before ++ e :: after)[(before.map (·.1) ++ [e.1]).length - 1]?).bind (·.2)).getD _ = _
    rw [List.length_append, List.length_map, List.length_singleton, Nat.add_sub_cancel, hnext,
      Option.bind_some, hresult]
    rfl

theorem Peer.Agrees.left {peer : Peer} {seen more : List Exchanged}
    (h : peer.Agrees (seen ++ more)) : peer.Agrees seen := by
  rintro before e after rfl
  exact h before e (after ++ more) (by simp)

/-- What it does after what a post had seen before. -/
theorem Peer.Agrees.last {peer : Peer} {seen : List Exchanged} {e : Exchanged}
    (h : peer.Agrees (seen ++ [e])) :
    peer.connectionId (seen.map (·.1)) = e.1.connectionId ∧
      ∀ result, e.2 = some result → peer.answer (seen.map (·.1) ++ [e.1]) = result :=
  h seen e [] rfl

/-- The last answer need not be known. -/
theorem Peer.Agrees.unanswered {peer : Peer} {seen : List Exchanged} {f : Forwarded}
    {result : Option (Except Error Json)} (h : peer.Agrees (seen ++ [(f, result)])) :
    peer.Agrees (seen ++ [(f, none)]) := by
  rintro before e after heq
  rcases List.eq_nil_or_concat after with rfl | ⟨after, last, rfl⟩
  · obtain ⟨rfl, hlast⟩ := List.append_inj' heq rfl
    cases hlast
    exact ⟨(Peer.Agrees.last h).1, nofun⟩
  · rw [List.concat_eq_append, ← List.cons_append, ← List.append_assoc] at heq
    exact h.left before e after (List.append_inj_left' heq rfl)

/-! ## One message -/

section Message

variable (peer : Peer)

/-- Pass the message in hand on, and wait for the answer if there is to be one. -/
def passOn (id : Option Json) (method : String) (params : Option Members)
    (sent : List Forwarded) : Option Json × List Forwarded :=
  match id with
  | some id =>
    let (response, sent) := forwardRequest peer id method params sent
    (some response, sent)
  | none => (none, forward peer method params false sent)

theorem handleMessage_eq (message : Json) (sent : List Forwarded) :
    handleMessage peer message sent =
      match prepareMessage message with
      | .refused response => (some response, sent)
      | .forwards id method params => passOn peer id method params sent := by
  unfold handleMessage prepareMessage
  cases message.asObject with
  | none => rfl
  | some object =>
    dsimp only
    cases (Json.get object "method").bind Json.asStr with
    | none => rfl
    | some method =>
      dsimp only
      cases mcpParams (Json.get object "params") with
      | error text => rfl
      | ok params => cases Json.get object "id" <;> rfl

theorem handlePayload_eq (payload : Json) :
    handlePayload peer payload [] =
      (payloadReply payload (handleItems peer (messages payload) []).1,
        (handleItems peer (messages payload) []).2) := by
  unfold handlePayload payloadReply messages
  cases payload.asArray with
  | none =>
    rw [Option.getD_none, handleItems_cons]
    cases h : handleMessage peer payload [] with
    | mk response sent => cases response <;> rfl
  | some items => cases items <;> rfl

end Message

/-- A notification was passed on. -/
theorem passOn_notification {peer : Peer} {seen : List Exchanged} {f : Forwarded}
    {method : String} {params : Option Members}
    (hf : f = ⟨f.connectionId, method, params, false⟩)
    (hagrees : peer.Agrees (seen ++ [(f, none)])) :
    passOn peer none method params (seen.map (·.1)) =
      (none, (seen ++ [(f, (none : Option (Except Error Json)))]).map (·.1)) := by
  unfold passOn forward
  rw [hagrees.last.1, List.map_append, hf]
  rfl

/-- A request was passed on and answered. -/
theorem passOn_request {setup : Setup} {peer : Peer} {seen : List Exchanged} {f : Forwarded}
    {id : Json} {method : String} {params : Option Members} {result : Except Error Json}
    (herror : peer.errorValue = setup.errorValue)
    (hf : f = ⟨f.connectionId, method, params, true⟩)
    (hagrees : peer.Agrees (seen ++ [(f, some result)])) :
    passOn peer (some id) method params (seen.map (·.1)) =
      (some (setup.forwardedResponse id result), (seen ++ [(f, some result)]).map (·.1)) := by
  have hsent : forward peer method params true (seen.map (·.1)) = seen.map (·.1) ++ [f] := by
    unfold forward
    rw [hagrees.last.1, ← hf]
  have hanswer : peer.answer (seen.map (·.1) ++ [f]) = result := hagrees.last.2 result rfl
  unfold passOn forwardRequest
  dsimp only
  rw [hsent, hanswer, List.map_append]
  unfold Setup.forwardedResponse
  cases result with
  | ok value => rfl
  | error error => rw [herror]; rfl

/-! ## The invariant -/

/-- The payload of a request that is handled: it has the token, is a post, and can be read. -/
def Setup.accepts (setup : Setup) (request : HttpRequest) : Option Json :=
  if setup.bridgeTokenAuthorized request.headers = true ∧ request.method = .post then
    (setup.extractJson request).toOption
  else none

/-- The calls a request is allowed to make. -/
def Setup.calls (setup : Setup) (request : HttpRequest) :
    List (String × Option Members × Bool) :=
  ((setup.accepts request).map fun payload => (messages payload).filterMap call).getD []

/-- What is left to handle of a post, from the message in hand on. -/
def Handling.remaining (peer : Peer) (h : Handling) : List Json × List Forwarded :=
  let (response, sent) := passOn peer h.id h.method h.params (h.seen.map (·.1))
  let (responses, sent) := handleItems peer h.rest sent
  (h.responses ++ (response.toList ++ responses), sent)

/-- What a post has seen, the message it waits for included. -/
def Handling.all (h : Handling) : List Exchanged := h.seen ++ h.awaited.toList.map (·, none)

/-- The messages passed on and the answers, matched up in order: the messages that are
answered have one each. -/
structure Matched (own : List Forwarded) (got : List (Except Error Json))
    (exchanged : List Exchanged) : Prop where
  own : exchanged.map (·.1) = own
  got : exchanged.filterMap (·.2) = got
  answered : ∀ e ∈ exchanged, e.2.isSome = e.1.answered

/-- The response is what handling the payload in one piece comes to, with a peer that gives
these answers. -/
def HandledAlone (setup : Setup) (payload : Json) (own : List Forwarded)
    (got : List (Except Error Json)) (response : HttpResponse) : Prop :=
  ∃ exchanged peer reply, Matched own got exchanged ∧ peer.Agrees exchanged ∧
    peer.errorValue = setup.errorValue ∧ handlePayload peer payload [] = (reply, own) ∧
    response = mcpPostResponse reply

/-- The response to a request that passed these messages on and got these answers, as if it
were alone. -/
structure Alone (setup : Setup) (request : HttpRequest) (own : List Forwarded)
    (got : List (Except Error Json)) (response : HttpResponse) : Prop where
  unauthorized : setup.bridgeTokenAuthorized request.headers = false →
    response = ⟨.unauthorized, none⟩ ∧ own = []
  deleted : setup.bridgeTokenAuthorized request.headers = true →
    request.method = .delete → response = ⟨.accepted, none⟩ ∧ own = []
  rejected : ∀ status, setup.bridgeTokenAuthorized request.headers = true →
    request.method = .post → setup.extractJson request = .error status →
    response = ⟨status, none⟩ ∧ own = []
  posted : ∀ payload, setup.bridgeTokenAuthorized request.headers = true →
    request.method = .post → setup.extractJson request = .ok payload →
    HandledAlone setup payload own got response

/-- What is true of a request while it is handled, and afterwards. -/
inductive Sound (setup : Setup) (request : HttpRequest) (own : List Forwarded)
    (got : List (Except Error Json)) : HandlerState → Prop where
  | handling {h : Handling} (haccepts : setup.accepts request = some h.payload)
      (hown : own = h.all.map (·.1)) (hgot : got = h.seen.filterMap (·.2))
      (hanswered : ∀ e ∈ h.seen, e.2.isSome = e.1.answered)
      (hawaited : ∀ f, h.awaited = some f → f = h.message f.connectionId)
      (hrest : ∀ peer : Peer, peer.errorValue = setup.errorValue → peer.Agrees h.all →
        handleItems peer (messages h.payload) [] = h.remaining peer) :
      Sound setup request own got (.handling h)
  | responded {response : HttpResponse} (h : Alone setup request own got response) :
      Sound setup request own got (.responded response)
  | dropped (h : own.map Forwarded.call <+: setup.calls request) :
      Sound setup request own got .dropped

/-! ## One post -/

section Post

variable {setup : Setup} {request : HttpRequest}

theorem Setup.accepts_eq_some {payload : Json} (h : setup.accepts request = some payload) :
    setup.bridgeTokenAuthorized request.headers = true ∧ request.method = .post ∧
      setup.extractJson request = .ok payload := by
  unfold Setup.accepts at h
  obtain ⟨⟨htoken, hmethod⟩, hextract⟩ := Option.ite_none_right_eq_some.mp h
  refine ⟨htoken, hmethod, ?_⟩
  cases hresult : setup.extractJson request with
  | error status => rw [hresult] at hextract; cases hextract
  | ok payload' =>
    rw [hresult] at hextract
    cases hextract
    rfl

/-- A post is alone if it is handled so. -/
theorem alone_of_accepts {payload : Json} {own : List Forwarded}
    {got : List (Except Error Json)} {response : HttpResponse}
    (haccepts : setup.accepts request = some payload)
    (h : HandledAlone setup payload own got response) : Alone setup request own got response := by
  obtain ⟨htoken, hmethod, hextract⟩ := Setup.accepts_eq_some haccepts
  constructor
  · intro hno
    rw [htoken] at hno
    cases hno
  · intro _ hdelete
    rw [hmethod] at hdelete
    cases hdelete
  · intro status _ _ hstatus
    rw [hextract] at hstatus
    cases hstatus
  · intro payload' _ _ hpayload
    rw [hextract] at hpayload
    cases hpayload
    exact h

/-- **The rest of a post.** If handling all its messages comes to handling those that are left,
then it goes on soundly. -/
theorem proceed_sound {payload : Json} {seen : List Exchanged} {rest : List Json}
    (haccepts : setup.accepts request = some payload) {responses : List Json}
    (hanswered : ∀ e ∈ seen, e.2.isSome = e.1.answered)
    (hrest : ∀ peer : Peer, peer.errorValue = setup.errorValue → peer.Agrees seen →
      handleItems peer (messages payload) [] =
        (responses ++ (handleItems peer rest (seen.map (·.1))).1,
          (handleItems peer rest (seen.map (·.1))).2)) :
    Sound setup request (seen.map (·.1)) (seen.filterMap (·.2))
      (proceed payload seen responses rest) := by
  induction rest generalizing responses with
  | nil =>
    refine .responded (alone_of_accepts haccepts
      ⟨seen, .ofSeen setup.errorValue seen, payloadReply payload responses,
        ⟨rfl, rfl, hanswered⟩, Peer.agrees_ofSeen _ _, rfl, ?_, rfl⟩)
    rw [handlePayload_eq, hrest _ rfl (Peer.agrees_ofSeen _ _)]
    show (payloadReply payload (responses ++ []), _) = _
    rw [List.append_nil]
    rfl
  | cons message rest ih =>
    unfold proceed
    cases hprepared : prepareMessage message with
    | refused response =>
      refine ih fun peer herror hagrees => ?_
      rw [hrest peer herror hagrees, handleItems_cons, handleMessage_eq, hprepared]
      dsimp only
      rw [Option.toList_some, List.append_assoc]
    | forwards id method params =>
      refine .handling haccepts ?_ rfl hanswered nofun fun peer herror hagrees => ?_
      · show seen.map _ = (seen ++ []).map _
        rw [List.append_nil]
      · have hseen : peer.Agrees seen := hagrees.left
        rw [hrest peer herror hseen, handleItems_cons, handleMessage_eq, hprepared]
        rfl

/-- The lock is there: the message in hand is passed on. -/
theorem forwarded_sound {h : Handling} {own : List Forwarded} {got : List (Except Error Json)}
    (hsound : Sound setup request own got (.handling h)) (hnone : h.awaited = none)
    (connectionId : McpConnectionId) :
    Sound setup request (own ++ [h.message connectionId]) got
      (h.forwarded (h.message connectionId)) := by
  cases hsound with
  | handling haccepts hown hgot hanswered hawaited hrest =>
    have hall : h.all = h.seen := by
      unfold Handling.all
      rw [hnone]
      exact List.append_nil _
    rw [hall] at hown hrest
    cases hid : h.id with
    | some id =>
      have hforwarded : h.forwarded (h.message connectionId) =
          .handling { h with awaited := some (h.message connectionId) } := by
        unfold Handling.forwarded
        rw [hid]
      rw [hforwarded]
      refine .handling haccepts ?_ hgot hanswered ?_ fun peer herror hagrees => ?_
      · rw [hown]
        exact (@List.map_append _ _ _ h.seen [(h.message connectionId, none)]).symm
      · intro f hf
        cases hf
        rfl
      · exact hrest peer herror hagrees.left
    | none =>
      have hf : h.message connectionId = ⟨connectionId, h.method, h.params, false⟩ := by
        unfold Handling.message
        rw [hid]
        rfl
      have hmap : own ++ [h.message connectionId] = (h.seen ++ [(h.message connectionId,
          (none : Option (Except Error Json)))]).map (·.1) := by
        rw [hown, List.map_append]
        rfl
      have hforwarded : h.forwarded (h.message connectionId) = proceed h.payload
          (h.seen ++ [(h.message connectionId, none)]) h.responses h.rest := by
        unfold Handling.forwarded
        rw [hid]
      have hsame : got = (h.seen ++ [(h.message connectionId,
          (none : Option (Except Error Json)))]).filterMap (·.2) := by
        rw [hgot, List.filterMap_append]
        exact (List.append_nil _).symm
      have hall' : ∀ e ∈ h.seen ++ [(h.message connectionId,
          (none : Option (Except Error Json)))], e.2.isSome = e.1.answered := by
        refine List.forall_mem_append.mpr ⟨hanswered, List.forall_mem_singleton.mpr ?_⟩
        rw [hf]
        rfl
      rw [hforwarded, hmap, hsame]
      refine proceed_sound haccepts hall' fun peer herror hagrees => ?_
      rw [hrest peer herror hagrees.left]
      unfold Handling.remaining
      rw [hid, passOn_notification hf hagrees]
      rfl

/-- The answer is there. -/
theorem answered_sound {h : Handling} {own : List Forwarded} {got : List (Except Error Json)}
    {f : Forwarded} {id : Json} (hsound : Sound setup request own got (.handling h))
    (hsome : h.awaited = some f) (hid : h.id = some id) (result : Except Error Json) :
    Sound setup request own (got ++ [result]) (h.answered setup f id result) := by
  cases hsound with
  | handling haccepts hown hgot hanswered hawaited hrest =>
    have hf : f = ⟨f.connectionId, h.method, h.params, true⟩ := by
      refine (hawaited f hsome).trans ?_
      unfold Handling.message
      rw [hid]
      rfl
    have hall : h.all = h.seen ++ [(f, none)] := by
      unfold Handling.all
      rw [hsome]
      rfl
    have hmap : own = (h.seen ++ [(f, some result)]).map (·.1) := by
      rw [hown, hall, List.map_append, List.map_append]
      rfl
    have hsame : got ++ [result] = (h.seen ++ [(f, some result)]).filterMap (·.2) := by
      rw [hgot, List.filterMap_append]
      rfl
    have hall' : ∀ e ∈ h.seen ++ [(f, some result)], e.2.isSome = e.1.answered := by
      refine List.forall_mem_append.mpr ⟨hanswered, List.forall_mem_singleton.mpr ?_⟩
      rw [hf]
      rfl
    unfold Handling.answered
    rw [hmap, hsame]
    refine proceed_sound haccepts hall' fun peer herror hagrees => ?_
    have hseen : peer.Agrees h.all := by
      rw [hall]
      exact hagrees.unanswered
    rw [hrest peer herror hseen]
    unfold Handling.remaining
    rw [hid, passOn_request herror hf hagrees]
    dsimp only
    rw [Option.toList_some, List.append_assoc]

/-- A request that comes in. -/
theorem requireBridgeToken_sound :
    Sound setup request [] [] (setup.requireBridgeToken request) := by
  unfold Setup.requireBridgeToken
  cases htoken : setup.bridgeTokenAuthorized request.headers with
  | false =>
    rw [if_neg nofun]
    have hno : ∀ {p : Prop}, setup.bridgeTokenAuthorized request.headers = true → p :=
      fun h => by rw [htoken] at h; cases h
    exact .responded ⟨fun _ => ⟨rfl, rfl⟩, hno, fun _ h => hno h, fun _ h => hno h⟩
  | true =>
    rw [if_pos rfl]
    have hyes : ∀ {p : Prop}, setup.bridgeTokenAuthorized request.headers = false → p :=
      fun h => by rw [htoken] at h; cases h
    cases hmethod : request.method with
    | delete =>
      have hno : ∀ {p : Prop}, request.method = .post → p := fun h => by
        rw [hmethod] at h
        cases h
      exact .responded ⟨hyes, fun _ _ => ⟨rfl, rfl⟩, fun _ _ h => hno h, fun _ _ h => hno h⟩
    | post =>
      dsimp only
      unfold Setup.handleMcpPost
      cases hextract : setup.extractJson request with
      | error status =>
        refine .responded ⟨hyes, fun _ h => ?_, fun status' _ _ h => ?_, fun payload _ _ h => ?_⟩
        · rw [hmethod] at h
          cases h
        · rw [hextract] at h
          cases h
          exact ⟨rfl, rfl⟩
        · rw [hextract] at h
          cases h
      | ok payload =>
        have haccepts : setup.accepts request = some payload := by
          unfold Setup.accepts
          rw [if_pos ⟨htoken, hmethod⟩, hextract]
          rfl
        exact @proceed_sound setup request payload [] _ haccepts [] nofun fun peer _ _ => rfl

theorem passOn_sent (peer : Peer) (id : Option Json) (method : String) (params : Option Members)
    (sent : List Forwarded) :
    (passOn peer id method params sent).2 = forward peer method params id.isSome sent := by
  unfold passOn
  cases id with
  | none => rfl
  | some id => exact forwardRequest_sent id method params sent

/-- What a post has passed on is the beginning of what it passes on in all. -/
theorem all_isPrefix {h : Handling} (hawaited : ∀ f, h.awaited = some f →
      f = h.message f.connectionId) {peer : Peer} (hagrees : peer.Agrees h.all) :
    h.all.map (·.1) <+: (h.remaining peer).2 := by
  obtain ⟨more, hmore, _⟩ := @handleItems_sent peer h.rest
    (passOn peer h.id h.method h.params (h.seen.map (·.1))).2
  have hremaining : (h.remaining peer).2 =
      h.seen.map (·.1) ++ ([h.message (peer.connectionId (h.seen.map (·.1)))] ++ more) := by
    refine hmore.trans ?_
    rw [passOn_sent, ← List.append_assoc]
    rfl
  rw [hremaining]
  unfold Handling.all at hagrees ⊢
  rw [List.map_append]
  refine List.prefix_append_right_inj _ |>.mpr ?_
  cases hf : h.awaited with
  | none => exact List.nil_prefix
  | some f =>
    rw [hf] at hagrees
    have hconnection : peer.connectionId (h.seen.map (·.1)) = f.connectionId :=
      (Peer.Agrees.last hagrees).1
    rw [hconnection, ← hawaited f hf]
    exact List.prefix_append _ _

/-- A response comes after all calls of a post, and other requests make none. -/
theorem Alone.calls {own : List Forwarded} {got : List (Except Error Json)}
    {response : HttpResponse} (h : Alone setup request own got response) :
    own.map Forwarded.call = setup.calls request := by
  unfold Setup.calls
  cases haccepts : setup.accepts request with
  | some payload =>
    obtain ⟨htoken, hmethod, hextract⟩ := Setup.accepts_eq_some haccepts
    obtain ⟨_, peer, reply, _, _, _, hhandled, _⟩ := h.posted payload htoken hmethod hextract
    obtain ⟨more, hmore, hcalls⟩ := @handlePayload_sent peer payload []
    rw [hhandled] at hmore
    have hown : own = more := hmore
    rw [hown]
    exact hcalls
  | none =>
    have hown : own = [] := by
      cases htoken : setup.bridgeTokenAuthorized request.headers with
      | false => exact (h.unauthorized htoken).2
      | true =>
        cases hmethod : request.method with
        | delete => exact (h.deleted htoken hmethod).2
        | post =>
          unfold Setup.accepts at haccepts
          rw [if_pos ⟨htoken, hmethod⟩] at haccepts
          cases hextract : setup.extractJson request with
          | error status => exact (h.rejected status htoken hmethod hextract).2
          | ok payload =>
            rw [hextract] at haccepts
            cases haccepts
    rw [hown]
    rfl

/-- **What is passed on** of a request are calls of its own, each once and in order. -/
theorem Sound.calls {own : List Forwarded} {got : List (Except Error Json)}
    {handler : HandlerState} (h : Sound setup request own got handler) :
    own.map Forwarded.call <+: setup.calls request := by
  cases h with
  | dropped h => exact h
  | responded h =>
    exact h.calls ▸ List.prefix_rfl
  | @handling h haccepts hown _ _ hawaited hrest =>
    have hagrees := Peer.agrees_ofSeen setup.errorValue h.all
    obtain ⟨more, hmore, hcalls⟩ :=
      @handleItems_sent (Peer.ofSeen setup.errorValue h.all) (messages h.payload) []
    have hprefix := all_isPrefix hawaited hagrees
    rw [← hrest _ rfl hagrees, hmore, List.nil_append, ← hown] at hprefix
    unfold Setup.calls
    rw [haccepts]
    show _ <+: (messages h.payload).filterMap call
    rw [← hcalls]
    exact hprefix.map _

end Post

/-! ## Determined

What a peer would do beyond the messages passed on does not matter, so that the messages of a
request and the answers to them leave one response. -/

/-- Messages and answers match up in one way. -/
theorem Matched.unique {own : List Forwarded} {got : List (Except Error Json)}
    {exchanged exchanged' : List Exchanged} (h : Matched own got exchanged)
    (h' : Matched own got exchanged') : exchanged' = exchanged := by
  induction exchanged generalizing own got exchanged' with
  | nil => exact List.map_eq_nil_iff.mp (h'.own.trans h.own.symm)
  | cons e rest ih =>
    have hown : exchanged'.map (·.1) = e.1 :: rest.map (·.1) := h'.own.trans h.own.symm
    obtain ⟨e', rest', rfl, hmessage, hrest⟩ := List.map_eq_cons_iff.mp hown
    have hgot : (e' :: rest').filterMap (·.2) = (e :: rest).filterMap (·.2) :=
      h'.got.trans h.got.symm
    have hsome : e'.2.isSome = e.2.isSome := by
      rw [h'.answered e' List.mem_cons_self, h.answered e List.mem_cons_self, hmessage]
    -- Both messages were answered or neither, so the answers are the same.
    have hanswers : e'.2 = e.2 ∧ rest'.filterMap (·.2) = rest.filterMap (·.2) := by
      cases hresult : e.2 with
      | none =>
        rw [hresult] at hsome
        have hnone : e'.2 = none := Option.not_isSome_iff_eq_none.mp (by simp [hsome])
        rw [List.filterMap_cons_none hnone, List.filterMap_cons_none hresult] at hgot
        exact ⟨hnone, hgot⟩
      | some result =>
        rw [hresult] at hsome
        obtain ⟨result', hresult'⟩ := Option.isSome_iff_exists.mp hsome
        rw [List.filterMap_cons_some hresult', List.filterMap_cons_some hresult] at hgot
        obtain ⟨rfl, htail⟩ := List.cons_eq_cons.mp hgot
        exact ⟨hresult', htail⟩
    have hmatched : Matched (rest.map (·.1)) (rest.filterMap (·.2)) rest :=
      ⟨rfl, rfl, fun _ hmem => h.answered _ (List.mem_cons_of_mem _ hmem)⟩
    have hmatched' : Matched (rest.map (·.1)) (rest.filterMap (·.2)) rest' :=
      ⟨hrest, hanswers.2, fun _ hmem => h'.answered _ (List.mem_cons_of_mem _ hmem)⟩
    rw [ih hmatched hmatched', Prod.ext hmessage hanswers.1]

/-- Each message was passed on after what was exchanged before. -/
theorem Matched.split {own before after : List Forwarded} {got : List (Except Error Json)}
    {exchanged : List Exchanged} {f : Forwarded} (h : Matched own got exchanged)
    (hown : own = before ++ f :: after) :
    ∃ seen e rest, exchanged = seen ++ e :: rest ∧ seen.map (·.1) = before ∧ e.1 = f := by
  obtain ⟨seen, later, rfl, hseen, hlater⟩ := List.map_eq_append_iff.mp (h.own.trans hown)
  obtain ⟨e, rest, rfl, hmessage, _⟩ := List.map_eq_cons_iff.mp hlater
  exact ⟨seen, e, rest, rfl, hseen, hmessage⟩

section Congr

variable {peer peer' : Peer}

/-- The two do the same, as far as these messages go. -/
structure Peer.SameUpTo (peer peer' : Peer) (all : List Forwarded) : Prop where
  errorValue : peer'.errorValue = peer.errorValue
  connectionId : ∀ before f after, all = before ++ f :: after →
    peer'.connectionId before = peer.connectionId before
  answer : ∀ before f after, all = before ++ f :: after → f.answered = true →
    peer'.answer (before ++ [f]) = peer.answer (before ++ [f])

/-- Two that did what a post has seen. -/
theorem Peer.Agrees.sameUpTo {own : List Forwarded} {got : List (Except Error Json)}
    {exchanged : List Exchanged} (hmatched : Matched own got exchanged)
    (h : peer.Agrees exchanged) (h' : peer'.Agrees exchanged)
    (herror : peer'.errorValue = peer.errorValue) : peer.SameUpTo peer' own := by
  refine ⟨herror, fun before f after hown => ?_, fun before f after hown hanswered => ?_⟩
  · obtain ⟨seen, e, rest, hexchanged, rfl, _⟩ := hmatched.split hown
    rw [(h seen e rest hexchanged).1, (h' seen e rest hexchanged).1]
  · obtain ⟨seen, e, rest, hexchanged, rfl, rfl⟩ := hmatched.split hown
    have hsome : e.2.isSome = true := by
      rw [hmatched.answered e (by simp [hexchanged]), hanswered]
    obtain ⟨result, hresult⟩ := Option.isSome_iff_exists.mp hsome
    rw [(h seen e rest hexchanged).2 result hresult, (h' seen e rest hexchanged).2 result hresult]

theorem passOn_congr {all : List Forwarded} (hsame : peer.SameUpTo peer' all) (id : Option Json)
    (method : String) (params : Option Members) (sent : List Forwarded)
    (hall : (passOn peer id method params sent).2 <+: all) :
    passOn peer' id method params sent = passOn peer id method params sent := by
  obtain ⟨after, rfl⟩ := hall
  rw [passOn_sent] at hsame
  have hsplit : forward peer method params id.isSome sent ++ after =
      sent ++ ⟨peer.connectionId sent, method, params, id.isSome⟩ :: after :=
    List.append_assoc ..
  have hforward : forward peer' method params id.isSome sent =
      forward peer method params id.isSome sent := by
    unfold forward
    rw [hsame.connectionId sent _ after hsplit]
  cases id with
  | none => exact congrArg (Prod.mk none) hforward
  | some id =>
    have hrequest : forward peer' method params true sent =
        forward peer method params true sent := hforward
    have hanswer : peer'.answer (forward peer method params true sent) =
        peer.answer (forward peer method params true sent) :=
      hsame.answer sent _ after hsplit rfl
    unfold passOn forwardRequest
    dsimp only
    rw [hrequest, hanswer, hsame.errorValue]

theorem handleMessage_congr {all : List Forwarded} (hsame : peer.SameUpTo peer' all)
    (message : Json) (sent : List Forwarded) (hall : (handleMessage peer message sent).2 <+: all) :
    handleMessage peer' message sent = handleMessage peer message sent := by
  rw [handleMessage_eq] at hall
  rw [handleMessage_eq, handleMessage_eq]
  cases hprepared : prepareMessage message with
  | refused response => rfl
  | forwards id method params =>
    rw [hprepared] at hall
    exact passOn_congr hsame id method params sent hall

/-- **What the peer does beyond the messages passed on** does not matter. -/
theorem handleItems_congr {all : List Forwarded} (hsame : peer.SameUpTo peer' all)
    (items : List Json) (sent : List Forwarded) (hall : (handleItems peer items sent).2 <+: all) :
    handleItems peer' items sent = handleItems peer items sent := by
  induction items generalizing sent with
  | nil => rfl
  | cons item items ih =>
    rw [handleItems_cons] at hall
    obtain ⟨more, hmore, _⟩ := @handleItems_sent peer items (handleMessage peer item sent).2
    have hfirst : (handleMessage peer item sent).2 <+: all :=
      (hmore ▸ List.prefix_append _ more).trans hall
    rw [handleItems_cons, handleItems_cons, handleMessage_congr hsame item sent hfirst,
      ih _ hall]

end Congr

theorem HandledAlone.unique {setup : Setup} {payload : Json} {own : List Forwarded}
    {got : List (Except Error Json)} {response response' : HttpResponse}
    (h : HandledAlone setup payload own got response)
    (h' : HandledAlone setup payload own got response') : response' = response := by
  obtain ⟨exchanged, peer, reply, hmatched, hagrees, herror, hhandled, rfl⟩ := h
  obtain ⟨exchanged', peer', reply', hmatched', hagrees', herror', hhandled', rfl⟩ := h'
  obtain rfl := hmatched.unique hmatched'
  have hsame : peer.SameUpTo peer' own :=
    hagrees.sameUpTo hmatched hagrees' (herror'.trans herror.symm)
  rw [handlePayload_eq] at hhandled hhandled'
  obtain ⟨rfl, hown⟩ := Prod.mk.inj hhandled
  obtain ⟨rfl, _⟩ := Prod.mk.inj hhandled'
  have hitems := handleItems_congr hsame (messages payload) [] (hown ▸ List.prefix_rfl)
  rw [hitems]

/-- **No other response** comes of these messages and answers. -/
theorem Alone.unique {setup : Setup} {request : HttpRequest} {own : List Forwarded}
    {got : List (Except Error Json)} {response response' : HttpResponse}
    (h : Alone setup request own got response) (h' : Alone setup request own got response') :
    response' = response := by
  cases htoken : setup.bridgeTokenAuthorized request.headers with
  | false => rw [(h.unauthorized htoken).1, (h'.unauthorized htoken).1]
  | true =>
    cases hmethod : request.method with
    | delete => rw [(h.deleted htoken hmethod).1, (h'.deleted htoken hmethod).1]
    | post =>
      cases hextract : setup.extractJson request with
      | error status =>
        rw [(h.rejected status htoken hmethod hextract).1,
          (h'.rejected status htoken hmethod hextract).1]
      | ok payload =>
        exact (h.posted payload htoken hmethod hextract).unique
          (h'.posted payload htoken hmethod hextract)

/-! ## The server -/

namespace Http

/-- Every request is handled soundly, and no other passes anything on or gets an answer. -/
structure Handled (setup : Setup) (s : Http) : Prop where
  sound : ∀ (n : Nat) (e : Exchange), s.exchanges[n]? = some e →
    Sound setup e.request (s.own n) (s.got n) e.handler
  unknown : ∀ n, s.exchanges.length ≤ n → s.own n = [] ∧ s.got n = []

theorem handled_empty (setup : Setup) : Handled setup {} where
  sound n e h := by cases h
  unknown n _ := ⟨rfl, rfl⟩

variable {setup : Setup} {s s' : Http}

/-- What is entered for a request is added to its own entries. -/
theorem entries_append {α : Type} (log : List (Nat × α)) (n m : Nat) (more : List α) :
    (log ++ more.map (n, ·)).filterMap (fun entry => if entry.1 = m then some entry.2 else none) =
      log.filterMap (fun entry => if entry.1 = m then some entry.2 else none) ++
        if n = m then more else [] := by
  rw [List.filterMap_append, List.filterMap_map]
  by_cases hm : n = m
  · simp [hm]
  · simp [hm]

/-- A handler went on: what it passed on and what came back are added to its own. -/
theorem Handled.goOn (h : Handled setup s) {n : Nat} {e : Exchange} (he : s.exchanges[n]? = some e)
    {handler : HandlerState} {more : List Forwarded} {came : List (Except Error Json)}
    (hsound : Sound setup e.request (s.own n ++ more) (s.got n ++ came) handler) :
    Handled setup { s.goOn n e.request handler with
      log := s.log ++ more.map (n, ·), answers := s.answers ++ came.map (n, ·) } := by
  have hlt : n < s.exchanges.length := (List.getElem?_eq_some_iff.mp he).1
  have hown : ∀ m, own { s.goOn n e.request handler with
      log := s.log ++ more.map (n, ·), answers := s.answers ++ came.map (n, ·) } m =
        s.own m ++ if n = m then more else [] := fun m => entries_append s.log n m more
  have hgot : ∀ m, got { s.goOn n e.request handler with
      log := s.log ++ more.map (n, ·), answers := s.answers ++ came.map (n, ·) } m =
        s.got m ++ if n = m then came else [] := fun m => entries_append s.answers n m came
  constructor
  · intro m e' he'
    rw [hown, hgot]
    have hset : (s.exchanges.set n ⟨e.request, handler⟩)[m]? = some e' := he'
    rw [List.getElem?_set] at hset
    by_cases hm : n = m
    · subst hm
      rw [if_pos rfl, if_pos hlt] at hset
      cases hset
      rw [if_pos rfl, if_pos rfl]
      exact hsound
    · rw [if_neg hm] at hset
      rw [if_neg hm, if_neg hm, List.append_nil, List.append_nil]
      exact h.sound m e' hset
  · intro m hm
    have hlength : (s.exchanges.set n ⟨e.request, handler⟩).length ≤ m := hm
    rw [List.length_set] at hlength
    rw [hown, hgot, if_neg (by omega), if_neg (by omega), List.append_nil, List.append_nil]
    exact h.unknown m hlength

/-- A request came in. -/
theorem Handled.arrive (h : Handled setup s) (request : HttpRequest) :
    Handled setup { s with exchanges := s.exchanges ++
      [⟨request, setup.requireBridgeToken request⟩] } := by
  constructor
  · intro m e he
    have happend : (s.exchanges ++ [⟨request, setup.requireBridgeToken request⟩])[m]? = some e := he
    rcases Nat.lt_trichotomy m s.exchanges.length with hlt | rfl | hgt
    · rw [List.getElem?_append_left hlt] at happend
      exact h.sound m e happend
    · rw [List.getElem?_concat_length] at happend
      cases happend
      obtain ⟨hown, hgot⟩ := h.unknown _ (Nat.le_refl _)
      show Sound setup request (s.own s.exchanges.length) (s.got s.exchanges.length) _
      rw [hown, hgot]
      exact requireBridgeToken_sound
    · rw [List.getElem?_eq_none (by simp; omega)] at happend
      cases happend
  · intro m hm
    refine h.unknown m ?_
    have hlength : (s.exchanges ++ [_]).length ≤ m := hm
    rw [List.length_append] at hlength
    omega

/-- **Every step** handles soundly. -/
theorem Handled.step (h : Handled setup s) {l : HttpLabel} (hstep : s.step setup l = some s') :
    Handled setup s' := by
  cases l with
  | bridge label =>
    obtain ⟨bridge, _, rfl⟩ := Option.map_eq_some_iff.mp hstep
    exact ⟨h.sound, h.unknown⟩
  | arrive request =>
    simp only [Http.step] at hstep
    split at hstep
    · cases hstep
      exact h.arrive request
    · cases hstep
  | lock n =>
    simp only [Http.step] at hstep
    split at hstep
    next request handling he =>
      unfold lock at hstep
      split at hstep
      next connectionId hawaited hinner =>
        cases hstep
        have hsound := forwarded_sound (h.sound n _ he) hawaited connectionId
        rw [← List.append_nil (s.got n)] at hsound
        have hnext := h.goOn he hsound
        rw [@List.map_nil (Except Error Json), List.append_nil] at hnext
        exact hnext
      next => cases hstep
    next => cases hstep
  | answer n result =>
    simp only [Http.step] at hstep
    split at hstep
    next request handling he =>
      unfold answer at hstep
      split at hstep
      next f id hawaited hid =>
        cases hstep
        have hsound := answered_sound (h.sound n _ he) hawaited hid result
        rw [← List.append_nil (s.own n)] at hsound
        have hnext := h.goOn he hsound
        rw [@List.map_nil Forwarded, List.append_nil] at hnext
        exact hnext
      next => cases hstep
    next => cases hstep
  | drop n =>
    simp only [Http.step] at hstep
    split at hstep
    next request handling he =>
      cases hstep
      have hsound : Sound setup request (s.own n ++ []) (s.got n ++ []) .dropped := by
        rw [List.append_nil, List.append_nil]
        exact .dropped (h.sound n _ he).calls
      have hnext := h.goOn he hsound
      rw [List.map_nil, List.append_nil, List.map_nil, List.append_nil] at hnext
      exact hnext
    next => cases hstep

theorem handled_of_run {labels : List HttpLabel}
    (hrun : exec (Http.step setup) {} labels = some s) : Handled setup s :=
  exec_invariant (C := fun _ _ _ => True) (fun _ _ _ h _ hstep => h.step hstep) labels
    (handled_empty setup) (along_of_forall (fun _ _ _ => trivial) _ _) hrun

end Http

/-- **Isolation.** In every interleaving, the response to a request is the one it would get
alone, with the answers that came back for it: these leave no other. -/
theorem requests_isolated (setup : Setup) {labels : List HttpLabel} {s : Http}
    (hrun : exec (Http.step setup) {} labels = some s) {n : Nat} {request : HttpRequest}
    {response : HttpResponse} (hresponse : s.exchanges[n]? = some ⟨request, .responded response⟩) :
    Alone setup request (s.own n) (s.got n) response ∧
      ∀ other, Alone setup request (s.own n) (s.got n) other → other = response := by
  cases (Http.handled_of_run hrun).sound n _ hresponse with
  | responded h => exact ⟨h, fun _ hother => h.unique hother⟩

/-- For concrete runs: a client is asked for its ping, and the connection is replaced before it
answers. -/
def samplePing : Json := .object [("id", .number "1"), ("method", .string "ping")]

def samplePong : HttpResponse :=
  ⟨.ok, some (.object [("jsonrpc", .string "2.0"), ("id", .number "1"), ("result", .null)])⟩

def Setup.sample : Setup where
  token := "secret"
  headerText value := some (.ofList (value.map fun byte => Char.ofNat byte.toNat))
  extractJson request := if request.body = [] then .error 400 else .ok samplePing
  errorValue _ := .null

def sampleBody : String := "\x7b\"id\":1,\"method\":\"ping\"\x7d"

def sampleRequest : HttpRequest :=
  { method := .post
    headers := [(bridgeAuthHeader, "secret".toList.map fun c => UInt8.ofNat c.toNat)]
    body := sampleBody.toList.map fun c => UInt8.ofNat c.toNat }

def sampleLabels : List HttpLabel :=
  [.bridge (.invoke 0 .start), .bridge (.resume 0 (.connected "first")), .bridge (.resume 0 .ok),
   .arrive sampleRequest, .bridge (.invoke 0 .replaceConnection), .lock 0,
   .bridge (.resume 0 (.connected "second")), .bridge (.resume 0 .ok), .answer 0 (.ok .null)]

theorem requests_isolated_ping :
    ∃ s, exec (Http.step .sample) {} sampleLabels = some s ∧
      Alone .sample sampleRequest (s.own 0) (s.got 0) samplePong ∧
      ∀ other, Alone .sample sampleRequest (s.own 0) (s.got 0) other → other = samplePong :=
  ⟨_, rfl, @requests_isolated .sample sampleLabels _ rfl 0 sampleRequest _ rfl⟩

end CodexAcp.Bridge
