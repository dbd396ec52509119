import CodexAcp.Lib.Run
import CodexAcp.Agent.Authentication
import CodexAcp.Thread.SlashCommands

/-!
# Signing in and out, over every sequence of calls

A configured gateway outlives what should end it in three places, and every
statement below says where.

> `status_follows_authenticate_iff`: after each successful authentication the
> reported status is the one its method establishes, exactly when no
> authentication finds a credential of its kind there and a gateway configured.
> `logout_complete_iff`: a logout that succeeded leaves nobody signed in, and a
> logout request that failed leaves everything as it was, exactly when neither a
> slash command that succeeds nor a request that fails finds a gateway configured.

Both follow from what one call does (`authenticate_ok`, `logout_run`,
`slashLogout_run`); `handleSlashCommand_logout` says that the logout of the slash
command is the one a session runs.
-/

namespace CodexAcp.Agent

open CodexAcp.Lib CodexAcp.Protocol

/-! ## Calls -/

/-- The calls that sign in and out: the two requests, the extension request, and
the slash command in a session. -/
inductive AuthCall where
  | authenticate (request : AuthenticateRequest)
  | logout
  | extensionLogout
  | slashLogout

namespace AuthCall

/-- Run a call. -/
def run (login : Login) : AuthCall → Handler AuthState Error Unit
  | authenticate request => AuthState.authenticate login request
  | logout => AuthState.logout login
  | extensionLogout => AuthState.logout login
  | slashLogout => (fun _ => ()) <$> AuthState.slashLogout login

/-- One call after the other; each is answered. -/
def step (login : Login) (s : AuthState) (call : AuthCall) : Option AuthState :=
  some (call.run login s).2

end AuthCall

/-! ## Signing in -/

namespace AuthState

variable {login : Login} {s s' : AuthState}

theorem call_run {α : Type} (f : StoreCall α) (s : AuthState) :
    Handler.mapError Error.fromAnyhow (call f) s =
      ((f s.calls s.stored).1.mapError Error.fromAnyhow,
        { s with stored := (f s.calls s.stored).2, calls := s.calls + 1 }) := by
  rw [Handler.mapError_run, call]
  cases (f s.calls s.stored).1 <;> rfl

/-- A call that succeeded, and what it left in the store. -/
theorem call_ok {α : Type} {f : StoreCall α} {a : α}
    (h : Handler.mapError Error.fromAnyhow (call f) s = (.ok a, s')) :
    (f s.calls s.stored).1 = .ok a ∧ s'.stored = (f s.calls s.stored).2 := by
  rw [call_run] at h
  obtain ⟨hanswer, rfl⟩ := Prod.mk.inj h
  refine ⟨?_, rfl⟩
  cases hresult : (f s.calls s.stored).1 with
  | ok b => rw [hresult] at hanswer; cases hanswer; rfl
  | error err => rw [hresult] at hanswer; cases hanswer

theorem loginWithApiKey_ok (hstores : login.StoresCredentials) {apiKey : String}
    (h : loginWithApiKey login apiKey s = (.ok (), s')) : s'.stored = some (.apiKey apiKey) := by
  obtain ⟨hanswer, hstored⟩ := call_ok h
  rw [hstored]
  exact hstores.apiKey apiKey _ _ hanswer

theorem loginWithChatGpt_ok (hstores : login.StoresCredentials)
    (h : loginWithChatGpt login s = (.ok (), s')) :
    ∃ email, s'.stored = some (.chatgpt email) := by
  obtain ⟨_, s₁, _, h⟩ := Handler.bind_ok_inv h
  obtain ⟨hanswer, hstored⟩ := call_ok h
  rw [hstored]
  exact hstores.chatGpt _ _ hanswer

/-- A login that succeeds stores a credential of the method's kind. -/
theorem performLogin_ok (hstores : login.StoresCredentials) {metadata : Option Meta}
    {method : CodexAuthMethod} (hmethod : method ≠ .gateway) (h : performLogin login metadata method s = (.ok (), s')) :
    ∃ auth, s'.stored = some auth ∧ alreadyAuthenticated auth method = true := by
  cases method with
  | gateway => exact absurd rfl hmethod
  | officialChatGpt | chatGpt =>
    obtain ⟨email, hstored⟩ := loginWithChatGpt_ok hstores h
    exact ⟨_, hstored, rfl⟩
  | officialApiKey =>
    obtain ⟨_, _, _, h⟩ := Handler.bind_ok_inv h
    obtain ⟨apiKey, _, _, h⟩ := Handler.bind_ok_inv h
    exact ⟨_, loginWithApiKey_ok hstores h, rfl⟩
  | codexApiKey | openAiApiKey =>
    obtain ⟨apiKey, _, _, h⟩ := Handler.bind_ok_inv h
    exact ⟨_, loginWithApiKey_ok hstores h, rfl⟩

/-- **A successful authentication** configures a gateway, or finds a credential of
its kind and changes nothing, or stores one and clears the gateway. -/
theorem authenticate_ok (hstores : login.StoresCredentials) {request : AuthenticateRequest}
    {method : CodexAuthMethod} (hmethod : CodexAuthMethod.tryFrom request.methodId = .ok method)
    (h : authenticate login request s = (.ok (), s')) :
    (method = .gateway ∧ s'.gatewayAuth.isSome) ∨
      method ≠ .gateway ∧
        if s.stored.any (alreadyAuthenticated · method) then s' = s
        else s'.gatewayAuth = none ∧
          ∃ auth, s'.stored = some auth ∧ alreadyAuthenticated auth method = true := by
  unfold authenticate at h
  rw [Handler.bind_run, Handler.lift_run, hmethod] at h
  dsimp only at h
  split at h
  next hgateway =>
    obtain ⟨gateway, s₁, _, hset⟩ := Handler.bind_ok_inv h
    cases hset
    exact .inl ⟨hgateway, rfl⟩
  next hgateway =>
    refine .inr ⟨hgateway, ?_⟩
    rw [Handler.bind_run, Handler.reads_run] at h
    dsimp only at h
    split at h
    next hpresent =>
      cases h
      rw [if_pos hpresent]
    next hpresent =>
      rw [if_neg hpresent]
      obtain ⟨_, s₁, hlogin, hset⟩ := Handler.bind_ok_inv h
      cases hset
      obtain ⟨auth, hstored, hkind⟩ := performLogin_ok hstores hgateway hlogin
      exact ⟨rfl, auth, hstored, hkind⟩

theorem ne_gateway_of_present {auths : Option CodexAuth} {method : CodexAuthMethod}
    (h : auths.any (alreadyAuthenticated · method) = true) : method ≠ .gateway := by
  rintro rfl
  cases auths with
  | none => cases h
  | some auth => cases auth <;> cases h

/-- **The early return**: a credential of the method's kind is there, and nothing
else is looked at. -/
theorem authenticate_present (login : Login) {request : AuthenticateRequest}
    {method : CodexAuthMethod}
    (hmethod : CodexAuthMethod.tryFrom request.methodId = .ok method)
    (h : s.stored.any (alreadyAuthenticated · method) = true) :
    authenticate login request s = (.ok (), s) := by
  unfold authenticate
  rw [Handler.bind_run, Handler.lift_run, hmethod]
  dsimp only
  rw [if_neg (ne_gateway_of_present h), Handler.bind_run, Handler.reads_run]
  dsimp only
  rw [if_pos h]
  rfl

end AuthState

/-- The type of status a method establishes. -/
def CodexAuthMethod.statusType : CodexAuthMethod → String
  | gateway => "gateway"
  | officialApiKey | codexApiKey | openAiApiKey => "api-key"
  | officialChatGpt | chatGpt => "chat-gpt"

theorem CodexAuthMethod.statusType_ne_gateway {method : CodexAuthMethod}
    (h : method ≠ .gateway) : method.statusType ≠ "gateway" := by
  cases method with
  | gateway => exact absurd rfl h
  | officialApiKey | codexApiKey | openAiApiKey => decide
  | officialChatGpt | chatGpt => decide

theorem status_of_gateway {s : AuthState} (h : s.gatewayAuth.isSome) :
    s.authenticationStatus.type = "gateway" := by
  obtain ⟨gateway, hgateway⟩ := Option.isSome_iff_exists.mp h
  unfold AuthState.authenticationStatus
  rw [hgateway]
  rfl

/-- Without a gateway the status is the type of the stored credential. -/
theorem status_of_credential {s : AuthState} {auth : CodexAuth} {method : CodexAuthMethod}
    (hgateway : s.gatewayAuth = none) (hstored : s.stored = some auth)
    (hkind : AuthState.alreadyAuthenticated auth method = true) :
    s.authenticationStatus.type = method.statusType := by
  unfold AuthState.authenticationStatus
  rw [hgateway, hstored]
  cases auth with
  | apiKey key => cases method <;> first | rfl | cases hkind
  | chatgpt email => cases email <;> cases method <;> first | rfl | cases hkind
  | chatgptAuthTokens email => cases email <;> cases method <;> first | rfl | cases hkind
  | other email => cases method <;> cases hkind

/-- After a successful authentication the reported status is the one its method
establishes: the gateway's if it is the gateway method, else the credential's. -/
def StatusFollows (login : Login) (s : AuthState) : AuthCall → AuthState → Prop
  | .authenticate request, s' => ∀ method,
    CodexAuthMethod.tryFrom request.methodId = .ok method →
      (AuthState.authenticate login request s).1 = .ok () →
        s'.authenticationStatus.type = method.statusType
  | _, _ => True

/-- An authentication that finds a credential of its kind finds no gateway. -/
def FindsNoGateway (s : AuthState) : AuthCall → Prop
  | .authenticate request => ∀ method,
    CodexAuthMethod.tryFrom request.methodId = .ok method →
      s.stored.any (AuthState.alreadyAuthenticated · method) = true → s.gatewayAuth = none
  | _ => True

/-- **One call.** The status follows it exactly when it finds no stale gateway. -/
theorem statusFollows_iff {login : Login} (hstores : login.StoresCredentials) (s : AuthState)
    (call : AuthCall) :
    StatusFollows login s call (call.run login s).2 ↔ FindsNoGateway s call := by
  cases call with
  | logout | extensionLogout | slashLogout => exact ⟨fun _ => trivial, fun _ => trivial⟩
  | authenticate request =>
    show (∀ method, CodexAuthMethod.tryFrom request.methodId = .ok method →
        (AuthState.authenticate login request s).1 = .ok () →
          (AuthState.authenticate login request s).2.authenticationStatus.type =
            method.statusType) ↔ _
    constructor
    · intro h method hmethod hpresent
      by_contra hgateway
      -- The early return succeeds and leaves the gateway, whose status is the one reported.
      have hrun := AuthState.authenticate_present login hmethod hpresent
      have htype := h method hmethod (by rw [hrun])
      rw [hrun, status_of_gateway (Option.isSome_iff_ne_none.mpr hgateway)] at htype
      exact CodexAuthMethod.statusType_ne_gateway (AuthState.ne_gateway_of_present hpresent)
        htype.symm
    · intro h method hmethod hok
      have hrun : AuthState.authenticate login request s =
          (.ok (), (AuthState.authenticate login request s).2) := by rw [← hok]
      rcases AuthState.authenticate_ok hstores hmethod hrun with ⟨rfl, hgateway⟩ | ⟨_, hcredential⟩
      · exact status_of_gateway hgateway
      split at hcredential
      next hpresent =>
        -- the credential was there: no gateway is in its way
        rw [hcredential]
        obtain ⟨auth, hstored, hkind⟩ := (Option.any_eq_true ..).mp hpresent
        exact status_of_credential (h _ hmethod hpresent) hstored hkind
      next =>
        obtain ⟨hgateway, auth, hstored, hkind⟩ := hcredential
        exact status_of_credential hgateway hstored hkind

/-- **Authentications.** In a sequence of calls the status follows each successful
authentication exactly when none of them finds a credential of its kind there
and a gateway configured. -/
theorem status_follows_authenticate_iff (login : Login) (hstores : login.StoresCredentials)
    (s : AuthState) (calls : List AuthCall) :
    Along (AuthCall.step login) (StatusFollows login) s calls ↔
      Along (AuthCall.step login) (fun s call _ => FindsNoGateway s call) s calls := by
  refine along_congr (fun s call s' hstep => ?_) calls s
  cases hstep
  exact statusFollows_iff hstores s call

/-- For concrete runs: a login library that refuses nothing. -/
def Login.sample : Login where
  readCodexApiKeyFromEnv := some "codex-key"
  readOpenaiApiKeyFromEnv := none
  runLoginServer _ stored := (.ok (), stored)
  blockUntilDone _ _ := (.ok (), some (.chatgpt none))
  loginWithApiKey key _ _ := (.ok (), some (.apiKey key))
  logout _ stored := (.ok stored.isSome, none)
  decodeGateway _ := .ok
    { baseUrl := "https://gateway.example", headers := [], providerName := none }
  decodeApiKey _ := .ok "key"

theorem Login.sample_storesCredentials : Login.sample.StoresCredentials :=
  ⟨fun _ _ _ _ => rfl, fun _ _ _ => ⟨none, rfl⟩⟩

theorem Login.sample_removesOnLogout : Login.sample.RemovesOnLogout :=
  ⟨fun _ _ _ _ => rfl, nofun⟩

/-- For concrete runs: the client configures a gateway. -/
def AuthCall.sampleGateway : AuthCall :=
  .authenticate { methodId := "gateway", metadata := some [] }

/-- The browser, and then a gateway. -/
theorem status_follows_chatGptThenGateway :
    Along (AuthCall.step .sample) (StatusFollows .sample) {}
      [.authenticate { methodId := "chatgpt", metadata := none }, .sampleGateway] := by
  refine (status_follows_authenticate_iff .sample Login.sample_storesCredentials {} _).mpr ?_
  refine ⟨fun _ _ _ => rfl, fun method hmethod hpresent => ?_, trivial⟩
  cases hmethod
  cases hpresent

/-- With a key in the store, a gateway and then the key: the gateway stays. -/
theorem status_stale : ¬ ∀ (login : Login), login.StoresCredentials →
    ∀ (stored : Option CodexAuth) (calls : List AuthCall),
      Along (AuthCall.step login) (StatusFollows login) { stored := stored } calls := by
  intro h
  obtain ⟨_, hfollows, _⟩ := h .sample Login.sample_storesCredentials (some (.apiKey "key"))
    [.sampleGateway, .authenticate { methodId := "codex-api-key", metadata := none }]
  have htype := hfollows .codexApiKey rfl rfl
  revert htype
  decide

/-! ## Signing out -/

namespace AuthState

variable {login : Login} (hremoves : login.RemovesOnLogout) (s : AuthState)

include hremoves in
/-- **The slash command** leaves the gateway whatever the store says. -/
theorem slashLogout_run :
    slashLogout login s =
      match (login.logout s.calls s.stored).1 with
      | .ok removed => (.ok removed, { s with stored := none, calls := s.calls + 1 })
      | .error err => (.error (Error.fromAnyhow err), { s with calls := s.calls + 1 }) := by
  unfold slashLogout
  rw [call_run]
  cases hlogout : (login.logout s.calls s.stored).1 with
  | ok removed => rw [hremoves.removes _ _ _ hlogout]; rfl
  | error err => rw [hremoves.keeps _ _ _ hlogout]; rfl

include hremoves in
/-- **The logout request** clears the gateway whatever the store says. -/
theorem logout_run :
    logout login s =
      match (login.logout s.calls s.stored).1 with
      | .ok _ => (.ok (), { gatewayAuth := none, stored := none, calls := s.calls + 1 })
      | .error err =>
        (.error (Error.fromAnyhow err),
          { s with gatewayAuth := none, calls := s.calls + 1 }) := by
  have hstore := slashLogout_run hremoves (setGateway none s)
  unfold slashLogout at hstore
  unfold logout
  rw [Handler.bind_run, Handler.update_run]
  dsimp only
  rw [Handler.bind_run, hstore, show (setGateway none s).calls = s.calls from rfl,
    show (setGateway none s).stored = s.stored from rfl]
  cases (login.logout s.calls s.stored).1 <;> rfl

/-- Nobody is signed in: the status says so, and whether a session may be opened
is up to the credentials alone. -/
def SignedOut (s : AuthState) : Prop :=
  s.authenticationStatus = .unauthenticated ∧
    ∀ modelProviderId reloaded,
      s.checkAuth modelProviderId reloaded = s.checkCredentials modelProviderId reloaded

/-- Without a credential, nobody is signed in exactly when there is no gateway. -/
theorem signedOut_iff {s : AuthState} (hstored : s.stored = none) :
    s.SignedOut ↔ s.gatewayAuth = none := by
  unfold SignedOut authenticationStatus checkAuth
  rw [hstored]
  cases s.gatewayAuth with
  | none => exact ⟨fun _ => rfl, fun _ => ⟨rfl, fun _ _ => rfl⟩⟩
  | some gateway => exact ⟨fun h => absurd h.1 nofun, nofun⟩

end AuthState

/-- A logout that succeeded leaves nobody signed in, and a logout request that
failed leaves the gateway and the credential as they were. -/
def LogoutComplete (login : Login) (s : AuthState) : AuthCall → AuthState → Prop
  | .authenticate _, _ => True
  | .logout, s' | .extensionLogout, s' =>
    match (AuthState.logout login s).1 with
    | .ok () => s'.SignedOut
    | .error _ => s'.gatewayAuth = s.gatewayAuth ∧ s'.stored = s.stored
  | .slashLogout, s' =>
    match (AuthState.slashLogout login s).1 with
    | .ok _ => s'.SignedOut
    | .error _ => True

/-- No gateway is configured when the store refuses a logout request, and when it
removes the credential for a slash command. -/
def MeetsNoGateway (login : Login) (s : AuthState) : AuthCall → Prop
  | .authenticate _ => True
  | .logout | .extensionLogout =>
    ∀ err, (login.logout s.calls s.stored).1 = .error err → s.gatewayAuth = none
  | .slashLogout =>
    ∀ removed, (login.logout s.calls s.stored).1 = .ok removed → s.gatewayAuth = none

theorem logoutComplete_iff {login : Login} (hremoves : login.RemovesOnLogout) (s : AuthState)
    (call : AuthCall) :
    LogoutComplete login s call (call.run login s).2 ↔ MeetsNoGateway login s call := by
  have hrequest : LogoutComplete login s .logout (AuthState.logout login s).2 ↔
      ∀ err, (login.logout s.calls s.stored).1 = .error err → s.gatewayAuth = none := by
    unfold LogoutComplete
    rw [AuthState.logout_run hremoves]
    cases (login.logout s.calls s.stored).1 with
    | ok removed => exact ⟨fun _ _ => nofun, fun _ => (AuthState.signedOut_iff rfl).mpr rfl⟩
    | error err =>
      -- the request failed, and the gateway is gone
      exact ⟨fun h _ _ => h.1.symm, fun h => ⟨(h err rfl).symm, rfl⟩⟩
  cases call with
  | authenticate request => exact ⟨fun _ => trivial, fun _ => trivial⟩
  | logout => exact hrequest
  | extensionLogout => exact hrequest
  | slashLogout =>
    show LogoutComplete login s .slashLogout
      (((fun _ => ()) <$> AuthState.slashLogout login : Handler AuthState Error Unit) s).2 ↔ _
    rw [Handler.map_state]
    unfold LogoutComplete MeetsNoGateway
    rw [AuthState.slashLogout_run hremoves]
    cases (login.logout s.calls s.stored).1 with
    | ok removed =>
      -- the credential is gone: signed out unless a gateway is still there
      have hiff : AuthState.SignedOut { s with stored := none, calls := s.calls + 1 } ↔
          s.gatewayAuth = none := AuthState.signedOut_iff rfl
      exact ⟨fun h _ _ => hiff.mp h, fun h => hiff.mpr (h removed rfl)⟩
    | error err => exact ⟨fun _ _ => nofun, fun _ => trivial⟩

/-- **Logouts.** In a sequence of calls every logout is complete exactly when no
gateway is configured where the store refuses a logout request, and where a slash
command removes the credential. -/
theorem logout_complete_iff (login : Login) (hremoves : login.RemovesOnLogout) (s : AuthState)
    (calls : List AuthCall) :
    Along (AuthCall.step login) (LogoutComplete login) s calls ↔
      Along (AuthCall.step login) (fun s call _ => MeetsNoGateway login s call) s calls := by
  refine along_congr (fun s call s' hstep => ?_) calls s
  cases hstep
  exact logoutComplete_iff hremoves s call

/-- A gateway, and a logout request: nobody is signed in. -/
theorem logout_complete_gateway :
    Along (AuthCall.step .sample) (LogoutComplete .sample) { stored := some (.apiKey "key") }
      [.sampleGateway, .logout] :=
  (logout_complete_iff .sample Login.sample_removesOnLogout _ _).mpr
    ⟨trivial, nofun, trivial⟩

/-- A gateway, and `/logout` in a session: the gateway stays. -/
theorem slash_logout_keeps_gateway :
    ¬ ∀ (login : Login), login.RemovesOnLogout →
      ∀ (stored : Option CodexAuth) (calls : List AuthCall),
        Along (AuthCall.step login) (LogoutComplete login) { stored := stored } calls := by
  intro h
  obtain ⟨_, hcomplete, _⟩ := h .sample Login.sample_removesOnLogout (some (.apiKey "key"))
    [.sampleGateway, .slashLogout]
  have hgateway := (AuthState.signedOut_iff rfl).mp hcomplete
  cases hgateway

/-! ## The slash command -/

/-- `/logout` in a session runs the logout of the manager: it fails with its error,
or asks the editor to sign in again. -/
theorem handleSlashCommand_logout {codex : Codex} {login : Login} {s : AuthState}
    {a : Thread.ThreadActor} (rest : String) (items : List UserInput)
    (h : codex.logout a.world.calls = (AuthState.slashLogout login s).1) :
    (Thread.ThreadActor.handleSlashCommand codex "logout" rest items a).1 =
      match (AuthState.slashLogout login s).1 with
      | .ok _ => .error .authRequired
      | .error err => .error err := by
  rw [← h]
  show ((Thread.ThreadActor.call codex.logout >>= fun _ => Handler.fail Error.authRequired) a).1 = _
  rw [Handler.bind_run, Thread.ThreadActor.call, Thread.ThreadActor.onWorld, Handler.zoom_run,
    Thread.World.call]
  cases codex.logout a.world.calls <;> rfl

end CodexAcp.Agent
