import CodexAcp.Agent.BridgeCleanup

/-!
# The servers of a session

The client's servers are put among the configured ones under their normalised
names. A configured server of that name wins; but nobody looks whether another
server of the client has the name already, and the later one takes the place of
the earlier one.

> `addMcpServers_inserts`: the entries of the servers that do not conflict are put
> into the map one after the other.
> `servers_kept_iff`: every server is kept exactly if their normalised names differ.
-/

namespace CodexAcp.Agent

open CodexAcp.Lib CodexAcp.Protocol Handler

/-! ## Entries -/

/-- The name of a server that Codex supports. -/
def McpServer.name? : McpServer → Option String
  | acp server => some server.name
  | http server => some server.name
  | stdio server => some server.name
  | sse => none
  | other => none

/-- The name under which a server is added, if it is. -/
def addedName (configured : ConfiguredServers) (server : McpServer) : Option String :=
  (server.name?.map normalizeMcpServerName).filter (!configured.conflicts ·)

/-- What a server is written as: one that is reached over ACP through a bridge of its own. -/
def OwnEntry (lib : McpLibrary) (cwd : String) (bridges : List BridgeHandle)
    (server : McpServer) (entry : String × McpServerConfig) : Prop :=
  match server with
  | .acp server => ∃ bridge ∈ bridges, ∃ converted, bridge.serverId = server.serverId ∧
      convertAcpMcpServer lib server bridge.url bridge.httpHeaders = .ok converted ∧
      buildMcpServerConfig lib converted = .ok entry
  | server => convertMcpServer lib cwd server = .ok (some entry)

/-- The client's entries beside the configured ones: each in its place, and nothing else. -/
structure Merged (configured : Dict String McpServerConfig)
    (entries : List (String × McpServerConfig)) (merged : Dict String McpServerConfig) : Prop where
  kept : ∀ name config, configured.lookup name = some config → merged.lookup name = some config
  added : ∀ entry ∈ entries, merged.lookup entry.1 = some entry.2
  nothingElse : ∀ name config, merged.lookup name = some config →
    configured.lookup name = some config ∨ (name, config) ∈ entries
  /-- No entry takes the place of another one. -/
  noneReplaced : merged.entries.length = configured.entries.length + entries.length

/-- The servers that are added have an entry each. -/
def ServersKept (env : SessionEnv) (servers : List McpServer) (build : SessionConfigBuild) : Prop :=
  let configured := env.configured env.config
  ∃ entries : List (String × McpServerConfig),
    List.Forall₂ (OwnEntry env.lib build.config.session.cwd build.mcpBridges)
      (servers.filter fun server => (addedName configured server).isSome) entries ∧
    Merged configured.mcpServers entries build.config.mcpServers.value

/-- A conversion that gives an entry keeps the name. -/
theorem convertMcpServer_name {lib : McpLibrary} {cwd : String} {server : McpServer}
    {entry : String × McpServerConfig} (h : convertMcpServer lib cwd server = .ok (some entry)) :
    server.name?.map normalizeMcpServerName = some entry.1 := by
  have hbuild : ∀ {r : Except Error ConvertedMcpServer} {name : String},
      (∀ converted, r = .ok converted → converted.name = name) →
      (do let converted ← r; some <$> buildMcpServerConfig lib converted) = .ok (some entry) →
      normalizeMcpServerName name = entry.1 := by
    intro r name hname h
    obtain ⟨converted, hr, hmap⟩ := except_bind_ok_inv h
    cases hconfig : buildMcpServerConfig lib converted with
    | error e => rw [hconfig] at hmap; cases hmap
    | ok built =>
      rw [hconfig] at hmap
      cases hmap
      rw [← hname converted hr]
      exact (buildMcpServerConfig_name hconfig).symm
  cases server with
  | acp server => cases h
  | http server =>
    refine congrArg some (hbuild (fun converted hconverted => ?_) h)
    obtain ⟨metadata, _, hconverted⟩ := except_bind_ok_inv hconverted
    split at hconverted
    · cases hconverted
    · cases hconverted
      rfl
  | stdio server =>
    refine congrArg some (hbuild (fun converted hconverted => ?_) h)
    obtain ⟨metadata, _, hconverted⟩ := except_bind_ok_inv hconverted
    split at hconverted
    · cases hconverted
    · obtain ⟨_, _, hconverted⟩ := except_bind_ok_inv hconverted
      obtain ⟨_, _, hconverted⟩ := except_bind_ok_inv hconverted
      cases hconverted
      rfl
  | sse => cases h
  | other => cases h

/-- Only a server that is not supported has no entry. -/
theorem convertMcpServer_none {lib : McpLibrary} {cwd : String} {server : McpServer}
    (h : convertMcpServer lib cwd server = .ok none) : server.name? = none := by
  have hbuild : ∀ {r : Except Error ConvertedMcpServer},
      (do let converted ← r; some <$> buildMcpServerConfig lib converted) ≠ .ok none := by
    intro r h
    obtain ⟨converted, _, hmap⟩ := except_bind_ok_inv h
    cases hconfig : buildMcpServerConfig lib converted with
    | error e => rw [hconfig] at hmap; cases hmap
    | ok built => rw [hconfig] at hmap; cases hmap
  cases server with
  | acp server => cases h
  | http server => exact absurd h hbuild
  | stdio server => exact absurd h hbuild
  | sse => rfl
  | other => rfl

/-- An entry stands under the normalised name of its server. -/
theorem OwnEntry.name {lib : McpLibrary} {cwd : String} {bridges : List BridgeHandle}
    {server : McpServer} {entry : String × McpServerConfig}
    (h : OwnEntry lib cwd bridges server entry) :
    server.name?.map normalizeMcpServerName = some entry.1 := by
  cases server with
  | acp server =>
    obtain ⟨bridge, _, converted, _, hconverted, hbuild⟩ := h
    have hname := buildMcpServerConfig_name hbuild
    rw [convertAcpMcpServer_name hconverted] at hname
    exact congrArg some hname.symm
  | http server => exact convertMcpServer_name h
  | stdio server => exact convertMcpServer_name h
  | sse => exact convertMcpServer_name h
  | other => exact convertMcpServer_name h

/-- More bridges do no harm. -/
theorem OwnEntry.mono {lib : McpLibrary} {cwd : String} {bridges bridges' : List BridgeHandle}
    (hsub : bridges ⊆ bridges') {server : McpServer} {entry : String × McpServerConfig}
    (h : OwnEntry lib cwd bridges server entry) : OwnEntry lib cwd bridges' server entry := by
  cases server with
  | acp server =>
    obtain ⟨bridge, hbridge, hrest⟩ := h
    exact ⟨bridge, hsub hbridge, hrest⟩
  | _ => exact h

/-! ## The loop -/

section Build

variable {env : SessionEnv} {configured : ConfiguredServers} {cwd : String}
  {acc acc' : SessionServers} {s s' : BridgeState}

/-- The entries of the servers that do not conflict were put into the map. -/
def Inserts (env : SessionEnv) (configured : ConfiguredServers) (cwd : String)
    (servers : List McpServer) (acc acc' : SessionServers) : Prop :=
  acc.mcpBridges ⊆ acc'.mcpBridges ∧ ∃ entries : List (String × McpServerConfig),
    List.Forall₂ (OwnEntry env.lib cwd acc'.mcpBridges)
      (servers.filter fun server => (addedName configured server).isSome) entries ∧
    acc'.mcpServers = Dict.insertAll entries acc.mcpServers

theorem addedName_isSome {server : McpServer} {name : String}
    (h : server.name?.map normalizeMcpServerName = some name) :
    (addedName configured server).isSome = !configured.conflicts name := by
  unfold addedName
  rw [h, Option.filter_some]
  cases configured.conflicts name <;> rfl

/-- A server that is not added. -/
theorem inserts_nothing {server : McpServer} (h : (addedName configured server).isSome = false)
    (acc : SessionServers) : Inserts env configured cwd [server] acc acc := by
  refine ⟨List.Subset.refl _, [], ?_, rfl⟩
  rw [List.filter_cons_of_neg (by simp [h])]
  exact .nil

/-- A server that is added. -/
theorem inserts_entry {server : McpServer} {entry : String × McpServerConfig}
    {bridges : List BridgeHandle}
    (hentry : OwnEntry env.lib cwd (acc.mcpBridges ++ bridges) server entry)
    (h : configured.conflicts entry.1 = false) :
    Inserts env configured cwd [server] acc
      { mcpServers := acc.mcpServers.insert entry.1 entry.2
        mcpBridges := acc.mcpBridges ++ bridges } := by
  refine ⟨List.subset_append_left _ _, [entry], ?_, rfl⟩
  rw [List.filter_cons_of_pos (by rw [addedName_isSome hentry.name, h]; rfl)]
  exact .cons hentry .nil

theorem addAcpMcpServer_inserts {server : McpServerAcp}
    (h : addAcpMcpServer env configured acc server s = (.ok acc', s')) :
    Inserts env configured cwd [.acp server] acc acc' := by
  unfold addAcpMcpServer at h
  obtain ⟨bridge, s₁, hstart, hrest⟩ := bind_ok_inv h
  obtain ⟨converted, s₂, hconverted, hrest'⟩ := bind_ok_inv hrest
  obtain ⟨entry, s₃, hconfig, hlast⟩ := bind_ok_inv hrest'
  obtain ⟨hacp, rfl⟩ := convert_ok_inv hconverted
  obtain ⟨hbuild, rfl⟩ := convert_ok_inv hconfig
  have hserver : bridge.serverId = server.serverId := by
    have hstarted := onError_ok_inv hstart
    unfold BridgeState.start at hstarted
    split at hstarted
    next => cases hstarted
    next => cases hstarted; rfl
  have hentry : OwnEntry env.lib cwd (acc.mcpBridges ++ [bridge]) (.acp server) entry :=
    ⟨bridge, by simp, converted, hserver, hacp, hbuild⟩
  dsimp only at hlast
  split at hlast
  next hconflicts =>
    obtain ⟨_, s₄, hshutdown, hpure⟩ := bind_ok_inv hlast
    cases hpure
    refine inserts_nothing ?_ acc
    rw [addedName_isSome hentry.name, hconflicts]
    rfl
  next hconflicts =>
    cases hlast
    exact inserts_entry hentry (by simpa using hconflicts)

theorem addPlainMcpServer_inserts {server : McpServer} (hplain : server.acp? = none)
    (h : addPlainMcpServer env configured cwd acc server s = (.ok acc', s')) :
    Inserts env configured cwd [server] acc acc' := by
  unfold addPlainMcpServer at h
  obtain ⟨converted, s₁, hconverted, hrest⟩ := bind_ok_inv h
  obtain ⟨hconvert, rfl⟩ := convert_ok_inv hconverted
  cases converted with
  | none =>
    cases hrest
    refine inserts_nothing ?_ _
    unfold addedName
    rw [convertMcpServer_none hconvert]
    rfl
  | some entry =>
    dsimp only at hrest
    have hentry : OwnEntry env.lib cwd (acc.mcpBridges ++ []) server entry := by
      cases server with
      | acp server => cases hplain
      | _ => exact hconvert
    split at hrest
    next hconflicts =>
      cases hrest
      refine inserts_nothing ?_ _
      rw [addedName_isSome hentry.name, hconflicts]
      rfl
    next hconflicts =>
      cases hrest
      have hfree : configured.conflicts entry.1 = false := by simpa using hconflicts
      have hinserts := inserts_entry hentry hfree
      rwa [List.append_nil] at hinserts

theorem addMcpServer_inserts {server : McpServer}
    (h : addMcpServer env configured cwd acc server s = (.ok acc', s')) :
    Inserts env configured cwd [server] acc acc' := by
  cases server with
  | acp server => exact addAcpMcpServer_inserts h
  | http server => exact addPlainMcpServer_inserts rfl h
  | stdio server => exact addPlainMcpServer_inserts rfl h
  | sse => exact addPlainMcpServer_inserts rfl h
  | other => exact addPlainMcpServer_inserts rfl h

theorem Inserts.append {servers servers' : List McpServer} {acc₁ : SessionServers}
    (h : Inserts env configured cwd servers acc acc₁)
    (h' : Inserts env configured cwd servers' acc₁ acc') :
    Inserts env configured cwd (servers ++ servers') acc acc' := by
  obtain ⟨hsub, entries, hentries, hmap⟩ := h
  obtain ⟨hsub', entries', hentries', hmap'⟩ := h'
  refine ⟨List.Subset.trans hsub hsub', entries ++ entries', ?_, ?_⟩
  · rw [List.filter_append]
    exact List.rel_append (hentries.imp fun _ _ => OwnEntry.mono hsub') hentries'
  · rw [Dict.insertAll_append, ← hmap, hmap']

/-- **The loop** puts the servers that do not conflict into the map, one after the other. -/
theorem addMcpServers_inserts {servers : List McpServer}
    (h : addMcpServers env configured cwd acc servers s = (.ok acc', s')) :
    Inserts env configured cwd servers acc acc' := by
  induction servers generalizing acc s with
  | nil =>
    cases h
    exact ⟨List.Subset.refl _, [], .nil, rfl⟩
  | cons server servers ih =>
    obtain ⟨acc₁, s₁, hserver, hrest⟩ := bind_ok_inv h
    exact (addMcpServer_inserts hserver).append (ih hrest)

end Build

theorem accepts_of_answer {α : Type} {c : Constrained α} {asked : α} {f : String → Error}
    (h : (c.set asked).1.mapError f = .ok ()) : c.accepts asked = true := by
  unfold Constrained.accepts
  cases hanswer : (c.set asked).1 with
  | ok _ => rfl
  | error e => rw [hanswer] at h; cases h

/-- A build that succeeds put the entries into the configured servers, where the
constraint on the servers normalises none. -/
theorem buildSessionConfig_inserts {env : SessionEnv}
    (hstores : env.config.mcpServers.StoresAccepted)
    {gateway : Except Error (Option GatewayAuthConfig)} {cwd : String}
    {additionalDirectories : List String} {mcpServers : List McpServer} {s s' : BridgeState}
    {build : SessionConfigBuild}
    (h : buildSessionConfig env gateway cwd additionalDirectories mcpServers s = (.ok build, s')) :
    Inserts env (env.configured env.config) build.config.session.cwd mcpServers
      { mcpServers := env.config.mcpServers.value, mcpBridges := [] }
      { mcpServers := build.config.mcpServers.value, mcpBridges := build.mcpBridges } := by
  obtain ⟨config, s₁, hconfig, h₁⟩ := bind_ok_inv h
  obtain ⟨gateway', s₂, hgateway, h₂⟩ := bind_ok_inv h₁
  obtain ⟨servers, s₃, hservers, h₃⟩ := bind_ok_inv h₂
  obtain ⟨_, s₄, hset, hlast⟩ := bind_ok_inv h₃
  obtain ⟨hanswer, rfl⟩ := convert_ok_inv hset
  obtain ⟨hforSession, rfl⟩ := lift_ok_inv hconfig
  obtain ⟨_, rfl⟩ := lift_ok_inv hgateway
  cases hlast
  have hconfigured :=
    (useGateway_mcpServers gateway' config).trans (forSession_mcpServers hforSession)
  have haccepts : env.config.mcpServers.accepts servers.mcpServers = true := by
    rw [← hconfigured]
    exact accepts_of_answer hanswer
  have hvalue : ((config.useGateway gateway').mcpServers.set servers.mcpServers).2.value =
      servers.mcpServers := by
    rw [hconfigured]
    exact hstores _ haccepts
  have hinserts := addMcpServers_inserts hservers
  unfold SessionEnv.configured at hinserts ⊢
  rw [hconfigured] at hinserts
  show Inserts env _ _ mcpServers _
    { mcpServers := ((config.useGateway gateway').mcpServers.set servers.mcpServers).2.value
      mcpBridges := servers.mcpBridges }
  rw [hvalue]
  exact hinserts

/-! ## Names -/

/-- The entries of servers stand under their names. -/
theorem names_of_ownEntries {lib : McpLibrary} {cwd : String} {bridges : List BridgeHandle}
    {configured : ConfiguredServers} {servers : List McpServer}
    {entries : List (String × McpServerConfig)}
    (h : List.Forall₂ (OwnEntry lib cwd bridges)
      (servers.filter fun server => (addedName configured server).isSome) entries) :
    entries.map (·.1) = servers.filterMap (addedName configured) := by
  induction servers generalizing entries with
  | nil => cases h; rfl
  | cons server servers ih =>
    rw [List.filter_cons] at h
    rw [List.filterMap_cons]
    split at h
    next hadded =>
      cases h with
      | @cons _ entry _ _ hentry hrest =>
        have hname : addedName configured server = some entry.1 := by
          obtain ⟨name, hname⟩ := Option.isSome_iff_exists.mp hadded
          have hfilter := hname
          unfold addedName at hfilter
          rw [hentry.name, Option.filter_eq_some_iff] at hfilter
          rw [hname, ← hfilter.1]
        rw [hname, List.map_cons, ih hrest]
    next hadded =>
      rw [Option.not_isSome_iff_eq_none.mp hadded]
      exact ih h

/-- No added name is configured. -/
theorem notMem_of_addedName {configured : ConfiguredServers} {server : McpServer} {name : String}
    (hfiltering : configured.filteringDisabled = false)
    (h : addedName configured server = some name) : name ∉ configured.mcpServers := by
  unfold addedName at h
  have hconflicts := (Option.filter_eq_some_iff.mp h).2
  unfold ConfiguredServers.conflicts shouldFilterMcpConflict at hconflicts
  rw [hfiltering] at hconflicts
  intro hmem
  rw [AList.lookup_isSome.mpr hmem] at hconflicts
  cases hconflicts

/-- Entries under new and distinct names leave the configured ones as they are. -/
theorem merged_insertAll {configured : Dict String McpServerConfig}
    {entries : List (String × McpServerConfig)} (hnodup : (entries.map (·.1)).Nodup)
    (hnew : ∀ entry ∈ entries, entry.1 ∉ configured) :
    Merged configured entries (Dict.insertAll entries configured) where
  kept name config h := by
    rw [Dict.lookup_insertAll_of_notMem, h]
    intro hname
    obtain ⟨entry, hentry, rfl⟩ := List.mem_map.mp hname
    exact hnew entry hentry (AList.lookup_isSome.mp (by rw [h]; rfl))
  added entry hentry := Dict.lookup_insertAll_of_mem hnodup hentry configured
  nothingElse name config h := by
    by_cases hname : name ∈ entries.map (·.1)
    · obtain ⟨entry, hentry, rfl⟩ := List.mem_map.mp hname
      rw [Dict.lookup_insertAll_of_mem hnodup hentry] at h
      cases h
      exact .inr hentry
    · rw [Dict.lookup_insertAll_of_notMem hname] at h
      exact .inl h
  noneReplaced := Dict.length_insertAll_iff.mpr ⟨hnodup, hnew⟩

section Kept

variable {env : SessionEnv} {gateway : Except Error (Option GatewayAuthConfig)} {cwd : String}
  {additionalDirectories : List String} {mcpServers : List McpServer} {s s' : BridgeState}
  {build : SessionConfigBuild}

/-- Where every server is kept, there is room for each of them. -/
theorem ServersKept.nodup (hkept : ServersKept env mcpServers build)
    (hstores : env.config.mcpServers.StoresAccepted)
    (h : buildSessionConfig env gateway cwd additionalDirectories mcpServers s = (.ok build, s')) :
    (mcpServers.filterMap (addedName (env.configured env.config))).Nodup := by
  obtain ⟨entries', hentries', hmerged⟩ := hkept
  obtain ⟨-, entries, hentries, hmap⟩ := buildSessionConfig_inserts hstores h
  have hnames : entries.map (·.1) = entries'.map (·.1) :=
    (names_of_ownEntries hentries).trans (names_of_ownEntries hentries').symm
  have hlength : entries'.length = entries.length := by
    have hlengths := congrArg List.length hnames
    rw [List.length_map, List.length_map] at hlengths
    exact hlengths.symm
  have hcount : (Dict.insertAll entries env.config.mcpServers.value).entries.length =
      env.config.mcpServers.value.entries.length + entries.length := by
    rw [← hlength, ← hmap]
    exact hmerged.noneReplaced
  rw [← names_of_ownEntries hentries]
  exact (Dict.length_insertAll_iff.mp hcount).1

/-- **Servers.** With conflict filtering on, a build keeps the configured servers and every
added one exactly if no two added servers have one normalised name. -/
theorem servers_kept_iff (hstores : env.config.mcpServers.StoresAccepted)
    (hfiltering : envFlagEnabled env.disableMcpConfigFiltering = false)
    (h : buildSessionConfig env gateway cwd additionalDirectories mcpServers s = (.ok build, s')) :
    ServersKept env mcpServers build ↔
      (mcpServers.filterMap (addedName (env.configured env.config))).Nodup := by
  refine ⟨fun hkept => hkept.nodup hstores h, fun hnodup => ?_⟩
  obtain ⟨-, entries, hentries, hmap⟩ := buildSessionConfig_inserts hstores h
  have hnames := names_of_ownEntries hentries
  have hnew : ∀ entry ∈ entries, entry.1 ∉ (env.configured env.config).mcpServers := by
    intro entry hentry
    have hname : entry.1 ∈ mcpServers.filterMap (addedName (env.configured env.config)) := by
      rw [← hnames]
      exact List.mem_map_of_mem hentry
    obtain ⟨server, _, hadded⟩ := List.mem_filterMap.mp hname
    exact notMem_of_addedName hfiltering hadded
  refine ⟨entries, hentries, ?_⟩
  have hmerged := merged_insertAll (hnames ▸ hnodup) hnew
  rwa [show Dict.insertAll entries (env.configured env.config).mcpServers =
    build.config.mcpServers.value from hmap.symm] at hmerged

end Kept

/-! ### Two names that are one -/

/-- One configured server; no constraint on the servers. -/
def SessionEnv.withDocs : SessionEnv where
  codex := Codex.sample
  lib :=
    { decodeMcpServerMeta := fun _ => .ok {}
      validateSource := fun _ => .ok ()
      absolutePath := .ok
      defaultMcpServerEnvironmentId := "local" }
  config :=
    { session := Config.sample
      workspaceRoots := []
      workspaceRootsExplicit := false
      modelProviderId := "local"
      modelProvider := ⟨"local", none, none⟩
      modelProviders := ∅
      mcpServers :=
        .free (Dict.collect [("docs",
          { transport := .streamableHttp "https://docs.example" none none none
            environmentId := "local"
            enabled := true
            required := false
            supportsParallelToolCalls := false
            startupTimeoutSec := none
            toolTimeoutSec := none
            defaultToolsApprovalMode := none
            enabledTools := none
            disabledTools := none
            scopes := none
            oauthResource := none })]) }
  initialAgentMode := none
  disableMcpConfigFiltering := none
  startBridge := fun _ => .ok ("http://127.0.0.1/mcp", "token")

/-- Servers of the client, each at an URL of its own. -/
def httpServers (names : List String) : List McpServer :=
  names.map fun name => .http { name := name, url := "https://client.example/" ++ name }

/-- A configured server wins over the client's one; another name is added. -/
theorem servers_kept_docs : ∃ build s',
    buildSessionConfig .withDocs (.ok none) "/work" [] (httpServers ["docs", "my server"]) {} =
      (.ok build, s') ∧ ServersKept .withDocs (httpServers ["docs", "my server"]) build := by
  have hok : (buildSessionConfig .withDocs (.ok none) "/work" []
      (httpServers ["docs", "my server"]) {}).1.toBool = true := by decide +kernel
  match hrun : buildSessionConfig .withDocs (.ok none) "/work" []
      (httpServers ["docs", "my server"]) {} with
  | (.ok build, s') =>
    exact ⟨build, s', rfl, (servers_kept_iff (Constrained.free_storesAccepted _)
      (by decide) hrun).mpr (by decide +kernel)⟩
  | (.error e, s') =>
    rw [hrun] at hok
    cases hok

/-- A blank is written as an underscore. -/
theorem normalizeMcpServerName_mine :
    normalizeMcpServerName "my server" = normalizeMcpServerName "my_server" := by
  unfold normalizeMcpServerName
  rw [← String.toList_inj, String.toList_map, String.toList_map]
  decide

/-- Under either name a server is added under the same one. -/
theorem addedName_mine {name url : String}
    (hname : normalizeMcpServerName name = normalizeMcpServerName "my_server") :
    addedName (SessionEnv.withDocs.configured SessionEnv.withDocs.config)
        (.http { name := name, url := url }) =
      some (normalizeMcpServerName "my_server") := by
  unfold addedName
  rw [show (McpServer.http { name := name, url := url }).name? = some name from rfl,
    Option.map_some, hname]
  exact Option.filter_some_pos (by decide +kernel)

/-- Of "my server" and "my_server" one is left. -/
theorem client_server_replaced : ∃ build s',
    buildSessionConfig .withDocs (.ok none) "/work" [] (httpServers ["my server", "my_server"]) {} =
      (.ok build, s') ∧ ¬ ServersKept .withDocs (httpServers ["my server", "my_server"]) build := by
  have hok : (buildSessionConfig .withDocs (.ok none) "/work" []
      (httpServers ["my server", "my_server"]) {}).1.toBool = true := by decide +kernel
  match hrun : buildSessionConfig .withDocs (.ok none) "/work" []
      (httpServers ["my server", "my_server"]) {} with
  | (.ok build, s') =>
    refine ⟨build, s', rfl, fun hkept => ?_⟩
    have hnodup := hkept.nodup (Constrained.free_storesAccepted _) hrun
    unfold httpServers at hnodup
    rw [List.map_cons, List.map_cons,
      List.filterMap_cons_some (addedName_mine normalizeMcpServerName_mine),
      List.filterMap_cons_some (addedName_mine rfl), List.nodup_cons] at hnodup
    exact hnodup.1 (List.mem_cons_self ..)
  | (.error e, s') =>
    rw [hrun] at hok
    cases hok

end CodexAcp.Agent
