import CodexAcp.Agent.SessionOpening

/-!
# Bridges are cleaned up

A bridge is started for every server of the client that is reached over ACP, and
whoever fails while it holds bridges has to shut them down.

> `buildSessionConfig_accounts`: what a build starts it shuts down or returns.
> `addMcpServers_bridged`: a build that succeeds returns the bridges of the servers
> that conflict with none the user configured, and has shut down the others.
> `openSession_accounts`: what a request starts and does not shut down is owned by the
> thread it opened.
> `bridges_cleaned_up`: a build and a request that fail have shut down every bridge
> they started exactly once.
-/

namespace CodexAcp.Agent

open CodexAcp.Lib CodexAcp.Protocol CodexAcp.Boundary Handler

/-! ## A build accounts for its bridges -/

namespace BridgeState

theorem start_accounts (env : SessionEnv) (serverId : String) :
    Accounts ledger [] (fun bridge kept => kept = [bridge]) (start env serverId) := by
  intro s
  unfold start
  cases env.startBridge s.starts with
  | error err => exact ⟨[], [], s.ledger.grows_refl, List.Perm.refl _⟩
  | ok result => exact ⟨_, [], Ledger.grows_acquire _ s.ledger, _, rfl, List.Perm.refl _⟩

theorem shutdownMcpBridges_accounts (rest bridges : List BridgeHandle) :
    Accounts ledger (rest ++ bridges) (fun _ kept => kept = rest) (shutdownMcpBridges bridges) :=
  accounts_releaseAll fun _ => rfl

/-- A conversion that fails shuts down the bridges there are. -/
theorem onError_lift_accounts {α : Type} {held bridges : List BridgeHandle}
    (h : held.Perm bridges) (r : Except Error α) :
    Accounts ledger held (fun _ kept => kept = held)
      (onError (Handler.lift r) (shutdownMcpBridges bridges)) :=
  accounts_onError_of_frame (fun _ => rfl)
    (accounts_perm h (shutdownMcpBridges_accounts [] bridges))

end BridgeState

open BridgeState

section Build

variable {env : SessionEnv} {configured : ConfiguredServers} {cwd : String}

theorem addAcpMcpServer_accounts (acc : SessionServers) (server : McpServerAcp) :
    Accounts ledger acc.mcpBridges (fun acc' kept => kept = acc'.mcpBridges)
      (addAcpMcpServer env configured acc server) := by
  unfold addAcpMcpServer
  refine accounts_bind (accounts_onError (start_accounts env server.serverId)
    (shutdownMcpBridges_accounts [] acc.mcpBridges)) ?_
  rintro bridge kept ⟨own, rfl, rfl⟩
  -- from here on a failure shuts down the bridge at hand, too
  have hheld : (acc.mcpBridges ++ [bridge]).Perm (bridge :: acc.mcpBridges) :=
    List.perm_append_singleton bridge acc.mcpBridges
  refine accounts_bind (onError_lift_accounts hheld _) ?_
  rintro converted kept rfl
  refine accounts_bind (onError_lift_accounts hheld _) ?_
  rintro ⟨name, config⟩ kept rfl
  show Accounts ledger _ _ (if configured.conflicts name = true then _ else _)
  split
  · refine accounts_bind (shutdownMcpBridges_accounts acc.mcpBridges [bridge]) ?_
    rintro _ kept rfl
    exact accounts_pure rfl
  · exact accounts_pure rfl

theorem addPlainMcpServer_accounts (acc : SessionServers) (server : McpServer) :
    Accounts ledger acc.mcpBridges (fun acc' kept => kept = acc'.mcpBridges)
      (addPlainMcpServer env configured cwd acc server) := by
  unfold addPlainMcpServer
  refine accounts_bind (onError_lift_accounts (List.Perm.refl _) _) ?_
  rintro converted kept rfl
  split
  · exact accounts_pure rfl
  · split
    · exact accounts_pure rfl
    · exact accounts_pure rfl

theorem addMcpServer_accounts (acc : SessionServers) (server : McpServer) :
    Accounts ledger acc.mcpBridges (fun acc' kept => kept = acc'.mcpBridges)
      (addMcpServer env configured cwd acc server) := by
  cases server with
  | acp server => exact addAcpMcpServer_accounts acc server
  | http server => exact addPlainMcpServer_accounts acc (.http server)
  | stdio server => exact addPlainMcpServer_accounts acc (.stdio server)
  | sse => exact addPlainMcpServer_accounts acc .sse
  | other => exact addPlainMcpServer_accounts acc .other

theorem addMcpServers_accounts (servers : List McpServer) :
    ∀ (acc : SessionServers), Accounts ledger acc.mcpBridges
      (fun acc' kept => kept = acc'.mcpBridges) (addMcpServers env configured cwd acc servers) := by
  induction servers with
  | nil => intro acc; exact accounts_pure rfl
  | cons server servers ih =>
    intro acc
    refine accounts_bind (addMcpServer_accounts acc server) ?_
    rintro acc' kept rfl
    exact ih acc'

end Build

theorem buildSessionConfig_accounts (env : SessionEnv)
    (gateway : Except Error (Option GatewayAuthConfig)) (cwd : String)
    (additionalDirectories : List String) (mcpServers : List McpServer) :
    Accounts ledger [] (fun build kept => kept = build.mcpBridges)
      (buildSessionConfig env gateway cwd additionalDirectories mcpServers) := by
  unfold buildSessionConfig
  refine accounts_after (fun _ => rfl) fun config => ?_
  refine accounts_after (fun _ => rfl) fun gateway => ?_
  refine accounts_bind (addMcpServers_accounts mcpServers _) ?_
  rintro servers kept rfl
  refine accounts_bind (onError_lift_accounts (List.Perm.refl _) _) ?_
  rintro _ kept rfl
  exact accounts_pure rfl

/-! ## Every bridge is a new one -/

namespace BridgeState

/-- From `s` to `t` only new bridges were started, each in a start of its own. -/
def Numbered (s t : BridgeState) : Prop :=
  s.starts ≤ t.starts ∧ ∃ started, t.ledger.acquired = s.ledger.acquired ++ started ∧
    (started.map (·.start)).Pairwise (· < ·) ∧
    ∀ bridge ∈ started, s.starts ≤ bridge.start ∧ bridge.start < t.starts

theorem numbered_refl (s : BridgeState) : Numbered s s :=
  ⟨Nat.le_refl _, [], (List.append_nil _).symm, List.Pairwise.nil, nofun⟩

theorem Numbered.trans {s t u : BridgeState} (h : Numbered s t) (h' : Numbered t u) :
    Numbered s u := by
  obtain ⟨hle, started, hacquired, hincreasing, hbounds⟩ := h
  obtain ⟨hle', started', hacquired', hincreasing', hbounds'⟩ := h'
  refine ⟨Nat.le_trans hle hle', started ++ started', ?_, ?_, ?_⟩
  · rw [hacquired', hacquired, List.append_assoc]
  · rw [List.map_append, List.pairwise_append]
    refine ⟨hincreasing, hincreasing', ?_⟩
    intro n hn n' hn'
    obtain ⟨bridge, hbridge, rfl⟩ := List.mem_map.mp hn
    obtain ⟨bridge', hbridge', rfl⟩ := List.mem_map.mp hn'
    exact Nat.lt_of_lt_of_le (hbounds bridge hbridge).2 (hbounds' bridge' hbridge').1
  · intro bridge hbridge
    rcases List.mem_append.mp hbridge with h | h
    · exact ⟨(hbounds bridge h).1, Nat.lt_of_lt_of_le (hbounds bridge h).2 hle'⟩
    · exact ⟨Nat.le_trans hle (hbounds' bridge h).1, (hbounds' bridge h).2⟩

/-- No bridge is started twice. -/
theorem Numbered.nodup {s t : BridgeState} {started shutDown : List BridgeHandle}
    (h : Numbered s t) (hgrows : s.ledger.Grows t.ledger started shutDown) : started.Nodup := by
  obtain ⟨_, started', hacquired, hincreasing, _⟩ := h
  obtain rfl : started' = started := by
    rw [hgrows.acquired_eq] at hacquired
    exact (List.append_cancel_left hacquired).symm
  exact (hincreasing.imp Nat.ne_of_lt).of_map _ fun _ _ hne heq => hne (congrArg _ heq)

theorem start_numbered (env : SessionEnv) (serverId : String) :
    Frame Numbered (start env serverId) := by
  intro s
  unfold start
  cases env.startBridge s.starts with
  | error err =>
    exact ⟨Nat.le_succ _, [], (List.append_nil _).symm, List.Pairwise.nil, nofun⟩
  | ok result =>
    refine ⟨Nat.le_succ _, _, rfl, List.pairwise_singleton _ _, ?_⟩
    intro bridge hbridge
    obtain rfl := List.mem_singleton.mp hbridge
    exact ⟨Nat.le_refl _, Nat.lt_succ_self _⟩

theorem shutdownMcpBridges_numbered (bridges : List BridgeHandle) :
    Frame Numbered (shutdownMcpBridges bridges) :=
  fun _ => ⟨Nat.le_refl _, [], (List.append_nil _).symm, List.Pairwise.nil, nofun⟩

theorem bind_numbered {α β : Type} {x : Handler BridgeState Error α}
    {f : α → Handler BridgeState Error β} (hx : Frame Numbered x) (hf : ∀ a, Frame Numbered (f a)) :
    Frame Numbered (x >>= f) :=
  frame_bind (R := Numbered) Numbered.trans hx hf

theorem cleanup_numbered {α : Type} {x : Handler BridgeState Error α} (hx : Frame Numbered x)
    (bridges : List BridgeHandle) : Frame Numbered (onError x (shutdownMcpBridges bridges)) :=
  frame_onError (R := Numbered) Numbered.trans hx (shutdownMcpBridges_numbered bridges)

theorem onError_lift_numbered {α : Type} (r : Except Error α) (bridges : List BridgeHandle) :
    Frame Numbered (onError (Handler.lift r) (shutdownMcpBridges bridges)) :=
  cleanup_numbered (frame_lift numbered_refl r) bridges

end BridgeState

section Build

variable {env : SessionEnv} {configured : ConfiguredServers} {cwd : String}

theorem addAcpMcpServer_numbered (acc : SessionServers) (server : McpServerAcp) :
    Frame Numbered (addAcpMcpServer env configured acc server) := by
  unfold addAcpMcpServer
  refine bind_numbered (cleanup_numbered (start_numbered env _) _) fun bridge => ?_
  refine bind_numbered (onError_lift_numbered _ _) fun converted => ?_
  refine bind_numbered (onError_lift_numbered _ _) ?_
  rintro ⟨name, config⟩
  -- Only the start moves the count; what follows shuts down or keeps.
  refine frame_ite ?_ (frame_pure numbered_refl _)
  exact bind_numbered (shutdownMcpBridges_numbered _)
    fun _ => frame_pure numbered_refl _

theorem addPlainMcpServer_numbered (acc : SessionServers) (server : McpServer) :
    Frame Numbered (addPlainMcpServer env configured cwd acc server) := by
  unfold addPlainMcpServer
  refine bind_numbered (onError_lift_numbered _ _) fun converted => ?_
  split
  · exact frame_pure numbered_refl _
  · exact frame_ite (frame_pure numbered_refl _) (frame_pure numbered_refl _)

theorem addMcpServers_numbered (servers : List McpServer) :
    ∀ (acc : SessionServers), Frame Numbered (addMcpServers env configured cwd acc servers) := by
  induction servers with
  | nil => intro acc; exact frame_pure numbered_refl acc
  | cons server servers ih =>
    intro acc
    refine bind_numbered ?_ ih
    cases server with
    | acp server => exact addAcpMcpServer_numbered acc server
    | http server => exact addPlainMcpServer_numbered acc (.http server)
    | stdio server => exact addPlainMcpServer_numbered acc (.stdio server)
    | sse => exact addPlainMcpServer_numbered acc .sse
    | other => exact addPlainMcpServer_numbered acc .other

end Build

theorem buildSessionConfig_numbered (env : SessionEnv)
    (gateway : Except Error (Option GatewayAuthConfig)) (cwd : String)
    (additionalDirectories : List String) (mcpServers : List McpServer) :
    Frame Numbered (buildSessionConfig env gateway cwd additionalDirectories mcpServers) := by
  unfold buildSessionConfig
  refine bind_numbered (frame_lift numbered_refl _) fun config => ?_
  refine bind_numbered (frame_lift numbered_refl _) fun gateway => ?_
  refine bind_numbered (addMcpServers_numbered mcpServers _) fun servers => ?_
  refine bind_numbered (onError_lift_numbered _ _) fun _ => ?_
  exact frame_pure numbered_refl _

/-! ## Which bridges a build returns -/

/-- The server conflicts with a configured one. -/
def ConfiguredServers.excludes (configured : ConfiguredServers)
    (pair : McpServerAcp × BridgeHandle) : Bool :=
  configured.conflicts (normalizeMcpServerName pair.1.name)

/-- The servers got a bridge each; the bridges of those that conflict with a
configured one were shut down, the others are `bridges`. -/
def Bridged (configured : ConfiguredServers) (servers : List McpServerAcp) (s s' : BridgeState)
    (bridges : List BridgeHandle) : Prop :=
  ∃ pairs : List (McpServerAcp × BridgeHandle),
    pairs.map (·.1) = servers ∧ (∀ pair ∈ pairs, pair.2.serverId = pair.1.serverId) ∧
    s.ledger.Grows s'.ledger (pairs.map (·.2)) ((pairs.filter configured.excludes).map (·.2)) ∧
    bridges = (pairs.filter (!configured.excludes ·)).map (·.2)

theorem bridged_nil {configured : ConfiguredServers} {s s' : BridgeState}
    (h : s'.ledger = s.ledger) : Bridged configured [] s s' [] :=
  ⟨[], rfl, nofun, h ▸ s.ledger.grows_refl, rfl⟩

theorem Bridged.append {configured : ConfiguredServers} {servers servers' : List McpServerAcp}
    {s t u : BridgeState} {bridges bridges' : List BridgeHandle}
    (h : Bridged configured servers s t bridges) (h' : Bridged configured servers' t u bridges') :
    Bridged configured (servers ++ servers') s u (bridges ++ bridges') := by
  obtain ⟨pairs, rfl, hserver, hgrows, rfl⟩ := h
  obtain ⟨pairs', rfl, hserver', hgrows', rfl⟩ := h'
  refine ⟨pairs ++ pairs', List.map_append, ?_, ?_, ?_⟩
  · intro pair hpair
    rcases List.mem_append.mp hpair with h | h
    · exact hserver pair h
    · exact hserver' pair h
  · rw [List.map_append, List.filter_append, List.map_append]
    exact hgrows.trans hgrows'
  · rw [List.filter_append, List.map_append]

section Build

variable {env : SessionEnv} {configured : ConfiguredServers} {cwd : String}
  {acc acc' : SessionServers} {s s' : BridgeState}

theorem convert_ok_inv {α : Type} {r : Except Error α} {a : α}
    {cleanup : Handler BridgeState Error Unit}
    (h : onError (Handler.lift r) cleanup s = (.ok a, s')) : r = .ok a ∧ s' = s :=
  lift_ok_inv (onError_ok_inv h)

theorem addAcpMcpServer_bridged {server : McpServerAcp}
    (h : addAcpMcpServer env configured acc server s = (.ok acc', s')) :
    ∃ bridges, acc'.mcpBridges = acc.mcpBridges ++ bridges ∧
      Bridged configured [server] s s' bridges := by
  unfold addAcpMcpServer at h
  obtain ⟨bridge, s₁, hstart, hrest⟩ := bind_ok_inv h
  obtain ⟨converted, s₂, hconverted, hrest'⟩ := bind_ok_inv hrest
  obtain ⟨⟨name, config⟩, s₃, hconfig, hlast⟩ := bind_ok_inv hrest'
  obtain ⟨hacp, rfl⟩ := convert_ok_inv hconverted
  obtain ⟨hbuild, rfl⟩ := convert_ok_inv hconfig
  have hname : name = normalizeMcpServerName server.name := by
    rw [buildMcpServerConfig_name hbuild, convertAcpMcpServer_name hacp]
  -- the start added the bridge of this server to the ledger
  have hbridge : bridge.serverId = server.serverId ∧
      s₃.ledger = s.ledger.acquire bridge := by
    have hstarted := onError_ok_inv hstart
    unfold BridgeState.start at hstarted
    split at hstarted
    next => cases hstarted
    next => cases hstarted; exact ⟨rfl, rfl⟩
  obtain ⟨hserver, hledger⟩ := hbridge
  have hpair : ∀ pair ∈ [(server, bridge)], pair.2.serverId = pair.1.serverId := by
    intro pair hpair
    obtain rfl := List.mem_singleton.mp hpair
    exact hserver
  dsimp only at hlast
  split at hlast
  next hconflicts =>
    obtain ⟨_, s₄, hshutdown, hpure⟩ := bind_ok_inv hlast
    cases hshutdown
    cases hpure
    rw [hname] at hconflicts
    have hexcludes : configured.excludes (server, bridge) = true := hconflicts
    refine ⟨[], (List.append_nil _).symm, [(server, bridge)], rfl, hpair, ?_, ?_⟩
    · rw [List.filter_cons_of_pos hexcludes]
      have hgrows := (Ledger.grows_acquire bridge s.ledger).trans
        (Ledger.grows_releaseAll [bridge] (s.ledger.acquire bridge))
      rw [← hledger] at hgrows
      exact hgrows
    · rw [List.filter_cons_of_neg (by simp [hexcludes])]
      rfl
  next hconflicts =>
    cases hlast
    rw [hname] at hconflicts
    have hexcludes : ¬ configured.excludes (server, bridge) = true := hconflicts
    refine ⟨[bridge], rfl, [(server, bridge)], rfl, hpair, ?_, ?_⟩
    · rw [List.filter_cons_of_neg hexcludes, hledger]
      exact Ledger.grows_acquire bridge s.ledger
    · rw [List.filter_cons_of_pos (by simp [hexcludes])]
      rfl

theorem addPlainMcpServer_bridged {server : McpServer}
    (h : addPlainMcpServer env configured cwd acc server s = (.ok acc', s')) :
    acc'.mcpBridges = acc.mcpBridges ∧ s' = s := by
  unfold addPlainMcpServer at h
  obtain ⟨converted, s₁, hconverted, hrest⟩ := bind_ok_inv h
  obtain ⟨_, rfl⟩ := convert_ok_inv hconverted
  split at hrest
  · cases hrest
    exact ⟨rfl, rfl⟩
  · split at hrest
    · cases hrest
      exact ⟨rfl, rfl⟩
    · cases hrest
      exact ⟨rfl, rfl⟩

theorem addMcpServer_bridged {server : McpServer}
    (h : addMcpServer env configured cwd acc server s = (.ok acc', s')) :
    ∃ bridges, acc'.mcpBridges = acc.mcpBridges ++ bridges ∧
      Bridged configured (server.acp?.toList) s s' bridges := by
  -- a server that needs no bridge leaves the bridges alone
  have hplain : addPlainMcpServer env configured cwd acc server s = (.ok acc', s') →
      ∃ bridges, acc'.mcpBridges = acc.mcpBridges ++ bridges ∧
        Bridged configured [] s s' bridges := by
    intro h
    obtain ⟨hbridges, rfl⟩ := addPlainMcpServer_bridged h
    exact ⟨[], by rw [hbridges, List.append_nil], bridged_nil rfl⟩
  cases server with
  | acp server => exact addAcpMcpServer_bridged h
  | http server => exact hplain h
  | stdio server => exact hplain h
  | sse => exact hplain h
  | other => exact hplain h

theorem addMcpServers_bridged {servers : List McpServer}
    (h : addMcpServers env configured cwd acc servers s = (.ok acc', s')) :
    ∃ bridges, acc'.mcpBridges = acc.mcpBridges ++ bridges ∧
      Bridged configured (servers.filterMap McpServer.acp?) s s' bridges := by
  induction servers generalizing acc s with
  | nil =>
    cases h
    exact ⟨[], (List.append_nil _).symm, bridged_nil rfl⟩
  | cons server servers ih =>
    obtain ⟨acc₁, s₁, hserver, hrest⟩ := bind_ok_inv h
    obtain ⟨bridges, hacc, hbridged⟩ := addMcpServer_bridged hserver
    obtain ⟨bridges', hacc', hbridged'⟩ := ih hrest
    refine ⟨bridges ++ bridges', by rw [hacc', hacc, List.append_assoc], ?_⟩
    rw [show (server :: servers).filterMap McpServer.acp? =
      server.acp?.toList ++ servers.filterMap McpServer.acp? from ?_]
    · exact hbridged.append hbridged'
    · rw [List.filterMap_cons]
      cases server.acp? <;> rfl

end Build

theorem forSession_mcpServers {env : SessionEnv} {cwd : String}
    {additionalDirectories : List String} {config config' : AgentConfig}
    (h : config.forSession env cwd additionalDirectories = .ok config') :
    config'.mcpServers = config.mcpServers := by
  obtain ⟨cwd', _, hrest⟩ := except_bind_ok_inv h
  obtain ⟨⟨session, _⟩, _, hrest'⟩ := except_bind_ok_inv hrest
  obtain ⟨directories, _, hlast⟩ := except_bind_ok_inv hrest'
  cases hlast
  rfl

theorem useGateway_mcpServers (gateway : Option GatewayAuthConfig) (config : AgentConfig) :
    (config.useGateway gateway).mcpServers = config.mcpServers := by
  cases gateway <;> rfl

theorem buildSessionConfig_bridged {env : SessionEnv}
    {gateway : Except Error (Option GatewayAuthConfig)} {cwd : String}
    {additionalDirectories : List String} {mcpServers : List McpServer} {s s' : BridgeState}
    {build : SessionConfigBuild}
    (h : buildSessionConfig env gateway cwd additionalDirectories mcpServers s = (.ok build, s')) :
    Bridged (env.configured env.config) (mcpServers.filterMap McpServer.acp?) s s'
      build.mcpBridges := by
  obtain ⟨config, s₁, hconfig, h₁⟩ := bind_ok_inv h
  obtain ⟨gateway', s₂, hgateway, h₂⟩ := bind_ok_inv h₁
  obtain ⟨servers, s₃, hservers, h₃⟩ := bind_ok_inv h₂
  obtain ⟨set, s₄, hset, hlast⟩ := bind_ok_inv h₃
  obtain ⟨_, rfl⟩ := convert_ok_inv hset
  obtain ⟨hforSession, rfl⟩ := lift_ok_inv hconfig
  obtain ⟨_, rfl⟩ := lift_ok_inv hgateway
  cases hlast
  -- the configured servers are those of the agent's own configuration
  have hservers' := (useGateway_mcpServers gateway' config).trans (forSession_mcpServers hforSession)
  obtain ⟨bridges, hbridges, hbridged⟩ := addMcpServers_bridged hservers
  rw [List.nil_append] at hbridges
  unfold SessionEnv.configured at hbridged ⊢
  rw [hservers'] at hbridged
  rw [hbridges]
  exact hbridged

/-! ## Requests -/

namespace SessionHost

section Requests

variable {env : HostEnv}

/-- The ledger of the bridges, in the agent's world. -/
def ledger (s : SessionHost) : Ledger BridgeHandle := s.bridges.ledger

theorem frame_ledger {ε α : Type} {x : Handler SessionHost ε α} (h : Frame Quiet x) :
    Frame (fun s t => ledger t = ledger s) x :=
  fun s => congrArg BridgeState.ledger (h s).bridges

theorem shutdownMcpBridges_accounts (bridges : List BridgeHandle) :
    Accounts ledger bridges (fun _ kept => kept = []) (shutdownMcpBridges bridges) :=
  accounts_zoom (fun _ _ => rfl) (BridgeState.shutdownMcpBridges_accounts [] bridges)

theorem buildConfig_accounts (params : OpeningParams) (additionalDirectories : List String) :
    Accounts ledger [] (fun build kept => kept = build.mcpBridges)
      (buildConfig env params additionalDirectories) :=
  accounts_after (frame_ledger (frame_attempt gatewayAuth_quiet)) fun _ =>
    accounts_zoom (fun _ _ => rfl) (buildSessionConfig_accounts _ _ _ _ _)

theorem bringUp_bridges (request : Opening) :
    Frame (fun s t => t.bridges = s.bridges) (bringUp env request) := by
  refine frame_bind (R := fun s t : SessionHost => t.bridges = s.bridges)
    (fun h h' => Eq.trans h' h) ?_ fun _ _ => rfl
  exact frame_mapError fun _ => rfl

theorem insertSessionThread_bridges (id : SessionId) (thread : HostedThread) :
    Frame (fun s t => t.bridges = s.bridges) (insertSessionThread env id thread) :=
  frame_bind (R := fun s t : SessionHost => t.bridges = s.bridges)
    (fun h h' => Eq.trans h' h) (fun _ => rfl) fun _ _ => rfl

/-- A thread that is shut down shuts its bridges down, whatever its actor answers. -/
theorem shutdown_accounts (thread : HostedThread) :
    Accounts ledger thread.mcpBridges (fun _ kept => kept = []) (shutdown env thread) := by
  refine accounts_bind (accounts_attempt_of_frame fun _ => rfl) ?_
  rintro result kept rfl
  refine accounts_bind (shutdownMcpBridges_accounts thread.mcpBridges) ?_
  rintro _ kept rfl
  exact accounts_of_frame fun _ => rfl

theorem openThread_accounts (request : Opening) (params : OpeningParams)
    (additionalDirectories : List String) (replays : Bool) :
    Accounts ledger [] (fun opened kept => kept = opened.1.mcpBridges)
      (openThread env request params additionalDirectories replays) := by
  refine accounts_bind (buildConfig_accounts params additionalDirectories) ?_
  rintro build kept rfl
  refine accounts_bind (accounts_onError_of_frame
    (fun s => congrArg BridgeState.ledger (bringUp_bridges request s))
    (shutdownMcpBridges_accounts build.mcpBridges)) ?_
  rintro ⟨threadId, ref⟩ kept rfl
  -- the bridges are the thread's now
  refine accounts_bind (accounts_onlyIf (accounts_onError_of_frame (fun _ => rfl)
    (shutdown_accounts ⟨ref, threadId, build.mcpBridges⟩))) ?_
  rintro _ kept rfl
  refine accounts_bind (accounts_onError_of_frame (fun _ => rfl)
    (shutdown_accounts ⟨ref, threadId, build.mcpBridges⟩)) ?_
  rintro load kept rfl
  refine accounts_bind (accounts_onError_of_frame
    (fun s => congrArg BridgeState.ledger (insertSessionThread_bridges _ _ s))
    (shutdown_accounts ⟨ref, threadId, build.mcpBridges⟩)) ?_
  rintro _ kept rfl
  exact accounts_pure rfl

theorem openSession_accounts (params : OpeningParams) (request : Opening) :
    Accounts ledger [] (fun _ _ => True) (openSession env params request) := by
  refine openSession_induction ?_ ?_ ?_ request
  · intro x hquiet
    exact (accounts_of_frame (frame_ledger hquiet)).mono fun _ _ _ => trivial
  · intro α x f hquiet hf
    exact accounts_after (frame_ledger hquiet) hf
  · intro request additionalDirectories replays
    exact accounts_bind (openThread_accounts request params additionalDirectories replays)
      fun _ _ _ => accounts_pure trivial

/-! ### Every bridge of a request is a new one -/

/-- The bridges a handler starts are new ones. -/
def NumberedBridges (s t : SessionHost) : Prop := Numbered s.bridges t.bridges

theorem numbered_of_bridges {s t : SessionHost} (h : t.bridges = s.bridges) :
    NumberedBridges s t := by
  unfold NumberedBridges
  rw [h]
  exact numbered_refl s.bridges

theorem numbered_bind {α β : Type} {x : Handler SessionHost Error α}
    {f : α → Handler SessionHost Error β} (hx : Frame NumberedBridges x)
    (hf : ∀ a, Frame NumberedBridges (f a)) : Frame NumberedBridges (x >>= f) :=
  frame_bind (R := NumberedBridges) Numbered.trans hx hf

theorem shutdown_numbered (thread : HostedThread) :
    Frame NumberedBridges (shutdown env thread) := by
  refine numbered_bind (fun _ => numbered_of_bridges rfl) fun result => ?_
  refine numbered_bind ?_ fun _ _ => numbered_of_bridges rfl
  exact frame_zoom (fun _ _ h => h) (shutdownMcpBridges_numbered thread.mcpBridges)

theorem onError_numbered {α : Type} {x : Handler SessionHost Error α}
    {cleanup : Handler SessionHost Error Unit} (hx : Frame (fun s t => t.bridges = s.bridges) x)
    (hcleanup : Frame NumberedBridges cleanup) : Frame NumberedBridges (onError x cleanup) :=
  frame_onError (R := NumberedBridges) Numbered.trans (fun s => numbered_of_bridges (hx s)) hcleanup

theorem openThread_numbered (request : Opening) (params : OpeningParams)
    (additionalDirectories : List String) (replays : Bool) :
    Frame NumberedBridges (openThread env request params additionalDirectories replays) := by
  refine numbered_bind ?_ fun build => ?_
  · refine numbered_bind (fun s => numbered_of_bridges ?_) fun gateway => ?_
    · exact (gatewayAuth_quiet s).bridges
    · exact frame_zoom (fun _ _ h => h) (buildSessionConfig_numbered _ _ _ _ _)
  refine numbered_bind (onError_numbered (bringUp_bridges request) ?_) ?_
  · exact frame_zoom (fun _ _ h => h) (shutdownMcpBridges_numbered build.mcpBridges)
  rintro ⟨threadId, ref⟩
  refine numbered_bind (frame_onlyIf (fun _ => numbered_of_bridges rfl)
    (onError_numbered (fun _ => rfl) (shutdown_numbered _))) fun _ => ?_
  refine numbered_bind (onError_numbered (fun _ => rfl) (shutdown_numbered _)) fun load => ?_
  refine numbered_bind (onError_numbered (insertSessionThread_bridges _ _)
    (shutdown_numbered _)) fun _ => ?_
  exact fun _ => numbered_of_bridges rfl

theorem openSession_numbered (params : OpeningParams) (request : Opening) :
    Frame NumberedBridges (openSession env params request) := by
  refine openSession_induction ?_ ?_ ?_ request
  · intro x hquiet s
    exact numbered_of_bridges (hquiet s).bridges
  · intro α x f hquiet hf
    exact numbered_bind (fun s => numbered_of_bridges (hquiet s).bridges) hf
  · intro request additionalDirectories replays
    exact numbered_bind (openThread_numbered request params additionalDirectories replays)
      fun _ _ => numbered_of_bridges rfl

end Requests

end SessionHost

/-! ## Bridges are cleaned up -/

/-- Every bridge that was started has been shut down, once. -/
def ClosedAgain (s s' : BridgeState) : Prop :=
  ∃ started shutDown, s.ledger.Grows s'.ledger started shutDown ∧ started.Nodup ∧
    shutDown.Perm started

/-- The bridges that were started are those of the servers; the ones that conflict with
a configured server have been shut down, and only they; the others are `bridges`. -/
def KeptOpen (configured : ConfiguredServers) (servers : List McpServerAcp) (s s' : BridgeState)
    (bridges : List BridgeHandle) : Prop :=
  Bridged configured servers s s' bridges ∧
    ∀ started shutDown, s.ledger.Grows s'.ledger started shutDown →
      started.Nodup ∧ ∀ bridge ∈ started, bridge ∈ bridges ↔ bridge ∉ shutDown

theorem closedAgain_of_error {σ α : Type} {ledger : σ → Ledger BridgeHandle}
    (bridges : σ → BridgeState) {post : α → List BridgeHandle → Prop} {x : Handler σ Error α}
    {s s' : σ} {e : Error} (hledger : ∀ s, ledger s = (bridges s).ledger)
    (hx : Accounts ledger [] post x) (hnumbered : Numbered (bridges s) (bridges s'))
    (hrun : x s = (.error e, s')) : ClosedAgain (bridges s) (bridges s') := by
  obtain ⟨started, shutDown, hgrows, hperm⟩ := hx.error hrun
  rw [hledger s, hledger s'] at hgrows
  exact ⟨started, shutDown, hgrows, hnumbered.nodup hgrows, hperm.symm⟩

theorem keptOpen_of_bridged {configured : ConfiguredServers} {servers : List McpServerAcp}
    {s s' : BridgeState} {bridges : List BridgeHandle}
    (h : Bridged configured servers s s' bridges) (hnumbered : Numbered s s') :
    KeptOpen configured servers s s' bridges := by
  refine ⟨h, fun started shutDown hgrows => ?_⟩
  obtain ⟨pairs, _, _, hpairs, rfl⟩ := h
  obtain ⟨rfl, rfl⟩ := hgrows.unique hpairs
  have hnodup := hnumbered.nodup hgrows
  refine ⟨hnodup, fun bridge hbridge => ?_⟩
  -- Kept and shut down split the pairs, and no two pairs have one bridge.
  obtain ⟨pair, hpair, rfl⟩ := List.mem_map.mp hbridge
  -- a pair is told by its bridge
  have hfind : ∀ p : McpServerAcp × BridgeHandle → Bool,
      pair.2 ∈ (pairs.filter p).map (·.2) ↔ p pair = true := by
    intro p
    constructor
    · intro hmem
      obtain ⟨other, hother, heq⟩ := List.mem_map.mp hmem
      obtain ⟨hother, hp⟩ := List.mem_filter.mp hother
      rwa [List.inj_on_of_nodup_map hnodup hother hpair heq] at hp
    · intro hp
      exact List.mem_map.mpr ⟨pair, List.mem_filter.mpr ⟨hpair, hp⟩, rfl⟩
  rw [hfind, hfind]
  simp

/-- **Cleanup.** A build that fails has shut down every bridge it started, once; one that
succeeds returns the bridges of the servers it did not filter out, and has shut down
the others. A request that fails has shut down every bridge it started, once. -/
theorem bridges_cleaned_up :
    (∀ (env : SessionEnv) (gateway : Except Error (Option GatewayAuthConfig)) (cwd : String)
      (additionalDirectories : List String) (mcpServers : List McpServer) (s : BridgeState),
      match buildSessionConfig env gateway cwd additionalDirectories mcpServers s with
      | (.error _, s') => ClosedAgain s s'
      | (.ok build, s') => KeptOpen (env.configured env.config)
          (mcpServers.filterMap McpServer.acp?) s s' build.mcpBridges) ∧
    (∀ (env : HostEnv) (params : OpeningParams) (request : Opening) (s : SessionHost),
      match SessionHost.openSession env params request s with
      | (.error _, s') => ClosedAgain s.bridges s'.bridges
      | (.ok _, _) => True) := by
  constructor
  · intro env gateway cwd additionalDirectories mcpServers s
    have hnumbered := buildSessionConfig_numbered env gateway cwd additionalDirectories mcpServers s
    split
    next e s' hrun =>
      rw [hrun] at hnumbered
      exact closedAgain_of_error id (fun _ => rfl) (buildSessionConfig_accounts _ _ _ _ _)
        hnumbered hrun
    next build s' hrun =>
      rw [hrun] at hnumbered
      exact keptOpen_of_bridged (buildSessionConfig_bridged hrun) hnumbered
  · intro env params request s
    have hnumbered : SessionHost.NumberedBridges s (SessionHost.openSession env params request s).2 :=
      SessionHost.openSession_numbered params request s
    split
    next e s' hrun =>
      rw [hrun] at hnumbered
      exact closedAgain_of_error SessionHost.bridges (fun _ => rfl)
        (SessionHost.openSession_accounts params request) hnumbered hrun
    next => trivial

end CodexAcp.Agent
