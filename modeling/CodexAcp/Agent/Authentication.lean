import CodexAcp.Lib.Handler
import CodexAcp.Lib.Text
import CodexAcp.Protocol.Types

/-!
# Authentication

What the agent is signed in with lives in two places: a gateway the client
configured, in the agent's memory, and a credential in Codex's store. A
configured gateway comes first, for the reported status and for the check before
a session is opened.

Signing in and out calls Codex's login library, which reads and writes the store;
what a call answers and leaves in the store is a parameter (`Login`). That a login
that succeeds has stored a credential, and a logout has removed it or failed, is
named where it is relied on (`Login.StoresCredentials`, `Login.RemovesOnLogout`). The
authentication manager hands out the stored credential.
-/

namespace CodexAcp.Agent

open CodexAcp.Lib CodexAcp.Protocol

/-- The `_meta` of a request. -/
abbrev Meta := List (String × Json)

structure GatewayAuthConfig where
  baseUrl : String
  headers : List (String × String)
  providerName : String
  deriving DecidableEq, Repr

/-- A gateway as a client writes it. -/
structure GatewayAuthMeta where
  baseUrl : String
  headers : List (String × String)
  providerName : Option String
  deriving DecidableEq, Repr

/-- A stored credential, with the account's email where it names one. -/
inductive CodexAuth where
  | apiKey (key : String)
  | chatgpt (email : Option String)
  | chatgptAuthTokens (email : Option String)
  | other (email : Option String)
  deriving DecidableEq, Repr

def CodexAuth.getAccountEmail : CodexAuth → Option String
  | apiKey _ => none
  | chatgpt email => email
  | chatgptAuthTokens email => email
  | other email => email

/-- A call of the login library: its outcome and what is stored after it, by how many
calls were made before and what is stored. -/
abbrev StoreCall (α : Type) := Nat → Option CodexAuth → Except String α × Option CodexAuth

/-- What the agent uses of the login library, of the environment and of the JSON
decoder. -/
structure Login where
  /-- `CODEX_API_KEY`. -/
  readCodexApiKeyFromEnv : Option String
  /-- `OPENAI_API_KEY`. -/
  readOpenaiApiKeyFromEnv : Option String
  runLoginServer : StoreCall Unit
  /-- Wait for the user to sign in. -/
  blockUntilDone : StoreCall Unit
  loginWithApiKey : String → StoreCall Unit
  /-- `AuthManager::logout`. -/
  logout : StoreCall Bool
  /-- The `gateway` and `api-key` members of a request's `_meta`, or why they cannot be
  decoded. -/
  decodeGateway : Meta → Except String GatewayAuthMeta
  decodeApiKey : Meta → Except String String

/-- A login that succeeds has stored a credential of its kind. -/
structure Login.StoresCredentials (login : Login) : Prop where
  apiKey : ∀ key n stored, (login.loginWithApiKey key n stored).1 = .ok () →
    (login.loginWithApiKey key n stored).2 = some (.apiKey key)
  chatGpt : ∀ n stored, (login.blockUntilDone n stored).1 = .ok () →
    ∃ email, (login.blockUntilDone n stored).2 = some (.chatgpt email)

/-- A logout that succeeds has removed the credential, and one that fails leaves the
store alone. -/
structure Login.RemovesOnLogout (login : Login) : Prop where
  removes : ∀ n stored removed, (login.logout n stored).1 = .ok removed →
    (login.logout n stored).2 = none
  keeps : ∀ n stored err, (login.logout n stored).1 = .error err →
    (login.logout n stored).2 = stored

/-! ## Methods -/

inductive CodexAuthMethod where
  | officialApiKey
  | officialChatGpt
  | chatGpt
  | codexApiKey
  | openAiApiKey
  | gateway
  deriving DecidableEq, Repr

namespace CodexAuthMethod

/-- The id of a method, as the client names it. -/
def id : CodexAuthMethod → String
  | officialApiKey => "api-key"
  | officialChatGpt => "chat-gpt"
  | chatGpt => "chatgpt"
  | codexApiKey => "codex-api-key"
  | openAiApiKey => "openai-api-key"
  | gateway => "gateway"

def tryFrom (value : String) : Except Error CodexAuthMethod :=
  if value = "api-key" then .ok officialApiKey
  else if value = "chat-gpt" then .ok officialChatGpt
  else if value = "chatgpt" then .ok chatGpt
  else if value = "codex-api-key" then .ok codexApiKey
  else if value = "openai-api-key" then .ok openAiApiKey
  else if value = "gateway" then .ok gateway
  else .error (Error.invalidParams.withData "unsupported authentication method")

/-- Every method is found under its own id. -/
theorem tryFrom_id (method : CodexAuthMethod) : tryFrom method.id = .ok method := by
  cases method <;> rfl

end CodexAuthMethod

structure AuthenticateRequest where
  methodId : String
  metadata : Option Meta

/-- The default name of a gateway's provider. -/
def customGatewayProviderId : String := "custom-gateway"

def apiKeyFromAuthMeta (login : Login) : Option Meta → Except Error (Option String)
  | none => .ok none
  | some metadata =>
    match login.decodeApiKey metadata with
    | .ok apiKey => .ok (some apiKey)
    | .error err => .error
        (Error.invalidParams.withData ("invalid api-key authentication metadata: " ++ err))

def gatewayAuthFromMeta (login : Login) : Option Meta → Except Error GatewayAuthConfig
  | none => .error (Error.invalidParams.withData "gateway authentication requires _meta.gateway")
  | some metadata =>
    match login.decodeGateway metadata with
    | .error err => .error
        (Error.invalidParams.withData ("invalid gateway authentication metadata: " ++ err))
    | .ok gateway =>
      if Text.trim gateway.baseUrl = "" then
        .error (Error.invalidParams.withData "gateway baseUrl must not be empty")
      else
        .ok
          { baseUrl := gateway.baseUrl
            headers := gateway.headers
            providerName := gateway.providerName.getD customGatewayProviderId }

def selectEnvApiKeyForEphemeralAuth (codexApiKey openaiApiKey : Option String) : Option String :=
  codexApiKey <|> openaiApiKey

/-! ## Signing in and out -/

/-- What the agent is signed in with, and the calls made to the login library. -/
structure AuthState where
  gatewayAuth : Option GatewayAuthConfig := none
  /-- The stored credential: what `AuthManager::auth` returns. -/
  stored : Option CodexAuth := none
  calls : Nat := 0
  deriving DecidableEq, Repr

namespace AuthState

/-- Make a call that the login library may refuse; it tells the reason. -/
def call {α : Type} (f : StoreCall α) : Handler AuthState String α := fun s =>
  ((f s.calls s.stored).1, { s with stored := (f s.calls s.stored).2, calls := s.calls + 1 })

def setGateway (gateway : Option GatewayAuthConfig) (s : AuthState) : AuthState :=
  { s with gatewayAuth := gateway }

def loginWithApiKey (login : Login) (apiKey : String) : Handler AuthState Error Unit :=
  Handler.mapError Error.fromAnyhow (call (login.loginWithApiKey apiKey))

/-- A key the request or the environment must provide. -/
def requireApiKey (apiKey : Option String) (missing : String) : Handler AuthState Error String :=
  match apiKey with
  | some apiKey => pure apiKey
  | none => Handler.fail (Error.internalError.withData missing)

/-- A credential for the method is already there. -/
def alreadyAuthenticated : CodexAuth → CodexAuthMethod → Bool
  | .apiKey _, .officialApiKey | .apiKey _, .codexApiKey | .apiKey _, .openAiApiKey => true
  | .chatgpt _, .officialChatGpt | .chatgpt _, .chatGpt => true
  | .chatgptAuthTokens _, .officialChatGpt | .chatgptAuthTokens _, .chatGpt => true
  | _, _ => false

/-- Sign in with the browser or the device. -/
def loginWithChatGpt (login : Login) : Handler AuthState Error Unit := do
  Handler.mapError Error.fromAnyhow (call login.runLoginServer)
  Handler.mapError Error.fromAnyhow (call login.blockUntilDone)

/-- Obtain and store a credential by the method. -/
def performLogin (login : Login) (metadata : Option Meta) :
    CodexAuthMethod → Handler AuthState Error Unit
  | .officialChatGpt | .chatGpt => loginWithChatGpt login
  | .officialApiKey => do
    let fromMeta ← Handler.lift (apiKeyFromAuthMeta login metadata)
    let apiKey ← requireApiKey
      (fromMeta <|> selectEnvApiKeyForEphemeralAuth login.readCodexApiKeyFromEnv
        login.readOpenaiApiKeyFromEnv)
      "CODEX_API_KEY or OPENAI_API_KEY is not set"
    loginWithApiKey login apiKey
  | .codexApiKey => do
    let apiKey ← requireApiKey login.readCodexApiKeyFromEnv "CODEX_API_KEY is not set"
    loginWithApiKey login apiKey
  | .openAiApiKey => do
    let apiKey ← requireApiKey login.readOpenaiApiKeyFromEnv "OPENAI_API_KEY is not set"
    loginWithApiKey login apiKey
  -- a gateway returns before the login flow
  | .gateway => pure ()

def authenticate (login : Login) (request : AuthenticateRequest) :
    Handler AuthState Error Unit := do
  let authMethod ← Handler.lift (CodexAuthMethod.tryFrom request.methodId)
  if authMethod = .gateway then do
    let gateway ← Handler.lift (gatewayAuthFromMeta login request.metadata)
    Handler.update (setGateway (some gateway))
  else do
    let auth ← Handler.reads (·.stored)
    -- The early return: nothing is cleared on this path.
    if auth.any (alreadyAuthenticated · authMethod) then pure ()
    else do
      performLogin login request.metadata authMethod
      Handler.update (setGateway none)

/-- The logout request of the protocol, also reached through the extension request
`authentication/logout`. -/
def logout (login : Login) : Handler AuthState Error Unit := do
  Handler.update (setGateway none)
  -- The gateway is gone already when the store is asked.
  let _ ← Handler.mapError Error.fromAnyhow (call login.logout)
  pure ()

/-- The logout of the slash command: a session only has the manager. -/
def slashLogout (login : Login) : Handler AuthState Error Bool :=
  Handler.mapError Error.fromAnyhow (call login.logout)

/-! ## What the rest of the agent sees -/

/-- The part of the check before a session that looks at the credential: there is
one, or none is needed, or the store changed since it was read. -/
def checkCredentials (modelProviderId : String) (reloaded : Bool) (s : AuthState) :
    Except Error Unit :=
  if modelProviderId = "openai" && s.stored.isNone && !reloaded then .error .authRequired
  else .ok ()

def checkAuth (modelProviderId : String) (reloaded : Bool) (s : AuthState) : Except Error Unit :=
  if s.gatewayAuth.isSome then .ok () else s.checkCredentials modelProviderId reloaded

end AuthState

/-- The reported status. -/
inductive AuthenticationStatus where
  | gateway (name : String)
  | apiKey
  | chatGpt (email : String)
  | unauthenticated
  deriving DecidableEq, Repr

/-- The `type` member of the status. -/
def AuthenticationStatus.type : AuthenticationStatus → String
  | gateway _ => "gateway"
  | apiKey => "api-key"
  | chatGpt _ => "chat-gpt"
  | unauthenticated => "unauthenticated"

def AuthState.authenticationStatus (s : AuthState) : AuthenticationStatus :=
  match s.gatewayAuth with
  | some gateway => .gateway gateway.providerName
  | none =>
    match s.stored with
    | some (.apiKey _) => .apiKey
    | some auth =>
      match auth.getAccountEmail with
      | some email => .chatGpt email
      | none =>
        match auth with
        | .chatgpt _ | .chatgptAuthTokens _ => .chatGpt ""
        | _ => .apiKey
    | none => .unauthenticated

end CodexAcp.Agent
