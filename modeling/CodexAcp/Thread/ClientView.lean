import CodexAcp.Thread.Reached

/-!
# What the client knows of the options

The client learns the session's options on three ways: from the response to a
load, from the response to a change of an option, and from notifications. The
actor sends a notification unless the options are the ones it last sent, but it
remembers only what it sent itself: responses pass it by. When they disagree, a
change back to the remembered options is not told.

> `clientView_current_iff`: on every run, the client knows the options after
> every mode change and every slash command that changed a setting, exactly when
> each of these told it, or left it with what it knew.
> `clientView_stale`: a mode is set, set back as an option, and set again: the
> client stays with the option.

The run is one of the actor together with the responses on their way: an actor's
reply to a load or to a query of the options reaches the client at any later time.
-/

namespace CodexAcp.Thread

open CodexAcp.Lib CodexAcp.Protocol CodexAcp.Boundary ThreadActor

/-! ## The client's view -/

/-- An actor, the options in responses on their way to the client, and the ones
the client last learned. -/
structure Viewed where
  running : Running
  inFlight : List (List SessionConfigOption) := []
  learned : Option (List SessionConfigOption) := none

inductive ViewLabel where
  /-- A step of the actor or of its world. -/
  | actor (label : Label)
  /-- A response on its way reaches the client. -/
  | deliver (n : Nat)

/-- The options a reply of the actor ends up telling the client. -/
def Reply.options? : Reply → Option (List SessionConfigOption)
  | .load (.ok response) => some response.configOptions
  | .configOptions (.ok options) => some options
  | _ => none

/-- The options of the replies of a step. -/
def repliedOptions (a a' : ThreadActor) : List (List SessionConfigOption) :=
  (a'.world.replies.drop a.world.replies.length).filterMap Reply.options?

/-- The options of the notifications of a step. -/
def notifiedOptions (a a' : ThreadActor) : List (List SessionConfigOption) :=
  (configUpdates a'.world.sent).drop (configUpdates a.world.sent).length

/-- What the client knew; a client that takes the place of another knows nothing. -/
def knownBefore (l : Label) (learned : Option (List SessionConfigOption)) :
    Option (List SessionConfigOption) :=
  match l with
  -- The actor keeps what it last sent; the new client has seen nothing of it.
  | .message .replaceClient => none
  | _ => learned

def Viewed.step (codex : Codex) (s : Viewed) : ViewLabel → Option Viewed
  | .actor l =>
    (s.running.step codex l).map fun r =>
      { running := r
        inFlight := s.inFlight ++ repliedOptions s.running.actor r.actor
        learned := (notifiedOptions s.running.actor r.actor).getLast?.or (knownBefore l s.learned) }
  | .deliver n =>
    s.inFlight[n]?.map fun options =>
      { s with inFlight := s.inFlight.eraseIdx n, learned := some options }

/-- The step changed a setting. -/
def changedSettings (a a' : ThreadActor) : Bool :=
  a'.turnSettings ≠ a.turnSettings || a'.securitySettings ≠ a.securitySettings

/-- The steps after which the client is to know the options: a mode was set, or a
prompt's slash command changed a setting. -/
def showsOptions (a a' : ThreadActor) : ViewLabel → Bool
  | .actor (.message (.setMode _)) => true
  | .actor (.message (.prompt _)) | .actor (.message (.steer _)) => changedSettings a a'
  | _ => false

/-- The client knows the options after the steps that are to show them. -/
def ClientCurrent (codex : Codex) (s : Viewed) (l : ViewLabel) (s' : Viewed) : Prop :=
  showsOptions s.running.actor s'.running.actor l = true →
    s'.learned = some (s'.running.actor.configOptions codex)

/-! ## Telling -/

/-- No options were sent, and the ones last sent are remembered. -/
def Untold (a b : ThreadActor) : Prop :=
  b.state.lastSentConfigOptions = a.state.lastSentConfigOptions ∧
    configUpdates b.world.sent = configUpdates a.world.sent

theorem Untold.of_keeps {a b : ThreadActor} (h : KeepsSettings a b) : Untold a b :=
  ⟨h.lastSent, h.world.told⟩

theorem Untold.trans {a b c : ThreadActor} (h : Untold a b) (h' : Untold b c) : Untold a c :=
  ⟨h'.1.trans h.1, h'.2.trans h.2⟩

theorem Setting.untold {codex : Codex} {a b : ThreadActor} {overrides : ThreadSettingsOverrides}
    (h : Setting codex a overrides b) (id : String) :
    Untold a (b.accept (.threadSettings overrides) id) := by
  cases h <;> exact ⟨rfl, rfl⟩

theorem untoldFrame {codex : Codex} : SetterFrame codex Untold where
  refl _ := ⟨rfl, rfl⟩
  trans h h' := h.trans h'
  called _ := ⟨rfl, rfl⟩
  saved _ _ := ⟨rfl, rfl⟩
  goal goal a := .of_keeps (rememberGoal_keeps goal a)
  plainSetting h _ id := h.untold id
  setting h id := h.untold id
  permissions _ _ := ⟨rfl, rfl⟩
  reviewBranch _ _ := ⟨rfl, rfl⟩

/-- The options were sent, unless they were the ones last sent. -/
def Tells (codex : Codex) (a b : ThreadActor) : Prop :=
  configUpdates b.world.sent = configUpdates a.world.sent ++
    if a.state.lastSentConfigOptions = some (b.configOptions codex) then []
    else [b.configOptions codex]

/-- Telling the editor about the options at the end of a change. -/
theorem tells_emit {codex : Codex} {a b : ThreadActor} (h : Untold a b) :
    Tells codex a (b.maybeEmitConfigOptionsUpdate codex) := by
  obtain ⟨hsent, htold⟩ := h
  unfold Tells maybeEmitConfigOptionsUpdate
  rw [← hsent, ← htold]
  dsimp only
  by_cases hlast : b.state.lastSentConfigOptions = some (b.configOptions codex)
  · rw [if_pos hlast, if_pos hlast, List.append_nil]
  · rw [if_neg hlast]
    have hsame : SameSettings b
        (sendNotification (.configOptionUpdate (b.configOptions codex))
          { b with state :=
            { b.state with lastSentConfigOptions := some (b.configOptions codex) } }) :=
      ⟨rfl, rfl, rfl⟩
    rw [hsame.configOptions_eq, if_neg hlast]
    simp [sendNotification, World.sendNotification, configUpdates]

/-! ## Slash commands -/

/-- A slash command sets a preset and leaves it half applied. -/
def halfPreset (codex : Codex) (name rest : String) (a : ThreadActor) : Bool :=
  (name = "approvals" || name = "permissions") &&
    match approvalPresetIdForAgentMode (Text.trim rest) with
    | some mode => halfApplied codex mode a
    | none => false

/-- What a slash command does to the settings and tells about them; `half` says
whether it leaves a preset half applied. -/
inductive SlashView (codex : Codex) (half : Bool) (a b : ThreadActor) : Prop where
  | silent (hturn : b.turnSettings = a.turnSettings)
      (hsecurity : b.securitySettings = a.securitySettings)
  | told (hwhole : half = false) (h : Tells codex a b)
  | half (hhalf : half = true) (h : Untold a b)

/-- Every run tells about the options at its end, or leaves the settings alone. -/
def TellsOrKeeps {α : Type} (codex : Codex) (x : Handler ThreadActor Error α) : Prop :=
  ∀ a, Tells codex a (x a).2 ∨ KeepsSettings a (x a).2

section Slash

variable {codex : Codex} {half : Bool} {a : ThreadActor} {α β : Type}

/-- A setter that wrote nothing if it failed, and then the options are told. -/
theorem tellsOrKeeps_emit {x : Handler ThreadActor Error Unit}
    {f : Unit → Handler ThreadActor Error α} (hx : Handler.Frame Untold x)
    (hfails : Handler.FailFrame KeepsSettings x)
    (hf : ∀ u a, (f u a).2 = a.maybeEmitConfigOptionsUpdate codex) :
    TellsOrKeeps codex (x >>= f) := by
  intro a
  have huntold := hx a
  rw [Handler.bind_run]
  match h : x a with
  | (.ok u, b) =>
    rw [h] at huntold
    dsimp only
    rw [hf]
    exact .inl (tells_emit huntold)
  | (.error e, b) => exact .inr (hfails a e b h)

theorem switchCollaborationModeAndEmit_tells (kind : ModeKind) :
    TellsOrKeeps codex (switchCollaborationModeAndEmit codex kind) :=
  tellsOrKeeps_emit (untoldFrame.applyCollaborationModeKind_frame kind)
    (keepsFrame.applyCollaborationModeKind_fails kind) fun _ _ => rfl

theorem setServiceTierAndEmit_tells (serviceTier : Option ServiceTier) :
    TellsOrKeeps codex (setServiceTierAndEmit codex serviceTier) :=
  tellsOrKeeps_emit (untoldFrame.setServiceTier_frame serviceTier)
    (keepsFrame.setServiceTier_fails serviceTier) fun _ _ => rfl

/-- What follows a command without writing anything. -/
theorem tellsOrKeeps_then {x : Handler ThreadActor Error α}
    {f : α → Handler ThreadActor Error β} (hx : TellsOrKeeps codex x)
    (hf : ∀ v a, (f v a).2 = a) : TellsOrKeeps codex (x >>= f) := by
  intro a
  have h := hx a
  rw [Handler.bind_run]
  match hrun : x a with
  | (.ok v, b) => rw [hrun] at h; dsimp only; rw [hf]; exact h
  | (.error e, b) => rw [hrun] at h; exact h

theorem tellsOrKeeps_pure (v : α) : TellsOrKeeps codex (pure v) := fun a => .inr (.refl a)

theorem tellsOrKeeps_ite {c : Prop} [Decidable c] {x y : Handler ThreadActor Error α}
    (hx : TellsOrKeeps codex x) (hy : TellsOrKeeps codex y) :
    TellsOrKeeps codex (if c then x else y) := by
  split
  · exact hx
  · exact hy

theorem handleFastCommand_tells (args : String) :
    TellsOrKeeps codex (handleFastCommand codex args) := by
  intro a
  unfold handleFastCommand
  rw [Handler.bind_run, Handler.reads_run]
  refine tellsOrKeeps_ite (tellsOrKeeps_pure _) (tellsOrKeeps_ite ?_ (tellsOrKeeps_ite ?_
    (tellsOrKeeps_ite ?_ (tellsOrKeeps_ite (tellsOrKeeps_pure _) (tellsOrKeeps_pure _))))) a
  · exact setServiceTierAndEmit_tells _
  · exact setServiceTierAndEmit_tells _
  · exact setServiceTierAndEmit_tells _

theorem handlePlanCommand_tells (rest : String) (items : List UserInput) :
    TellsOrKeeps codex (handlePlanCommand codex rest items) := by
  have hswitch : ∀ kind submission,
      TellsOrKeeps codex (do switchCollaborationModeAndEmit codex kind
                             pure submission : Handler ThreadActor Error PromptSubmission) :=
    fun kind _ => tellsOrKeeps_then (switchCollaborationModeAndEmit_tells kind) fun _ _ => rfl
  exact tellsOrKeeps_ite (hswitch _ _) (tellsOrKeeps_ite (hswitch _ _) (hswitch _ _))

theorem SlashView.of_keeps {b : ThreadActor} (h : KeepsSettings a b) :
    SlashView codex half a b :=
  .silent h.same.turnSettings_eq h.same.securitySettings_eq

theorem SlashView.of_tells {x : Handler ThreadActor Error α} (hx : TellsOrKeeps codex x)
    (hwhole : half = false) : SlashView codex half a (x a).2 := by
  rcases hx a with h | h
  · exact .told hwhole h
  · exact .of_keeps h

/-- A preset told about when it is set as a whole. -/
theorem handlePermissionsCommand_view {name rest : String}
    (hname : name = "approvals" ∨ name = "permissions") :
    SlashView codex (halfPreset codex name rest a) a (handlePermissionsCommand codex rest a).2 := by
  have hhalf : halfPreset codex name rest a =
      match approvalPresetIdForAgentMode (Text.trim rest) with
      | some mode => halfApplied codex mode a
      | none => false := by
    unfold halfPreset
    rw [show (decide (name = "approvals") || decide (name = "permissions")) = true by
      simpa using hname, Bool.true_and]
  unfold handlePermissionsCommand
  cases hmode : approvalPresetIdForAgentMode (Text.trim rest) with
  | none => exact .of_keeps (.refl a)
  | some mode =>
    rw [hmode] at hhalf
    dsimp only at hhalf ⊢
    have hframe : SetterFrame codex Untold := untoldFrame
    have huntold := hframe.handleSetApprovalPreset_frame mode a
    have hwhole := handleSetApprovalPreset_whole codex mode a
    rw [Handler.bind_run]
    match hrun : handleSetApprovalPreset codex mode a with
    | (.ok (), b) =>
      rw [hrun] at hwhole huntold
      exact .told (hhalf.trans hwhole) (tells_emit huntold)
    | (.error e, b) =>
      rw [hrun] at hwhole huntold
      -- A preset that failed was half applied, or refused before or after the override was
      -- submitted.
      rcases hwhole with h | rfl | rfl
      · exact .half (hhalf.trans h) huntold
      · exact .of_keeps (.refl _)
      · exact .of_keeps (called_keeps _)

/-- **Slash commands** tell about what they set, or set nothing, or leave a preset
half applied. -/
theorem handleSlashCommand_view (name rest : String) (items : List UserInput) :
    SlashView codex (halfPreset codex name rest a) a
      (handleSlashCommand codex name rest items a).2 := by
  have hnot : name ≠ "approvals" → name ≠ "permissions" →
      halfPreset codex name rest a = false := by
    intro happrovals hpermissions
    simp [halfPreset, happrovals, hpermissions]
  have hruns := handleSlashCommand_runs codex name rest items
  generalize handleSlashCommand codex name rest items = x at hruns
  cases hruns with
  | quiet hname h => exact .of_keeps (h a)
  | fast hname =>
    refine .of_tells (tellsOrKeeps_then (handleFastCommand_tells rest) fun _ _ => rfl) (hnot ?_ ?_)
    · rw [hname]; decide
    · rw [hname]; decide
  | permissions hname =>
    rw [Handler.map_state]
    exact handlePermissionsCommand_view hname
  | plan hname =>
    refine .of_tells (handlePlanCommand_tells rest items) (hnot ?_ ?_)
    · rw [hname]; decide
    · rw [hname]; decide

/-- A prompt that starts with a slash command leaves a preset half applied. -/
def halfPrompt (codex : Codex) (items : List UserInput) (a : ThreadActor) : Bool :=
  match extractSlashCommand items with
  | none => false
  | some (name, rest) => halfPreset codex name rest a

theorem promptSubmissionForItems_view (items : List UserInput) :
    SlashView codex (halfPrompt codex items a) a (promptSubmissionForItems codex items a).2 := by
  unfold promptSubmissionForItems halfPrompt
  cases extractSlashCommand items with
  | none => exact .of_keeps (.refl a)
  | some command => exact handleSlashCommand_view command.1 command.2 items

/-- What comes before and after a slash command leaves the settings alone. -/
theorem SlashView.between {a' b b' : ThreadActor} (h : SlashView codex half b b')
    (hbefore : KeepsSettings a b) (hafter : KeepsSettings b' a') : SlashView codex half a a' := by
  cases h with
  | silent hturn hsecurity =>
    refine .silent ?_ ?_
    · rw [hafter.same.turnSettings_eq, hturn, hbefore.same.turnSettings_eq]
    · rw [hafter.same.securitySettings_eq, hsecurity, hbefore.same.securitySettings_eq]
  | told hwhole h =>
    refine .told hwhole ?_
    unfold Tells at h ⊢
    rw [hafter.world.told, h, hbefore.world.told, hafter.same.configOptions_eq, hbefore.lastSent]
  | half hhalf h =>
    exact .half hhalf (((Untold.of_keeps hbefore).trans h).trans (.of_keeps hafter))

end Slash

/-! ## Steps and runs -/

/-- The message's slash command leaves a preset half applied. -/
def halfMessage (codex : Codex) (a : ThreadActor) (m : ThreadMessage) : Bool :=
  match messagePrompt codex a m with
  | none => false
  | some (items, b) => halfPrompt codex items b

/-- The condition on a step, told from the state it finds: if it is to show the
options, then the client knows already the ones it leads to, or else they are not
the ones the actor last sent, and no preset is left half applied. -/
def toldOrKnown (codex : Codex) (s : Viewed) (l : ViewLabel) : Bool :=
  match l with
  | .actor (.message m) =>
    let a := s.running.actor
    let reached := messageReaches codex a m
    !showsOptions a reached l || s.learned = some (reached.configOptions codex) ||
      (a.state.lastSentConfigOptions ≠ some (reached.configOptions codex) &&
        !halfMessage codex a m)
  | _ => true

section Steps

variable {codex : Codex} {a a' : ThreadActor}

theorem notifiedOptions_of_untold (h : Untold a a') : notifiedOptions a a' = [] := by
  unfold notifiedOptions
  rw [h.2, List.drop_length]

theorem notifiedOptions_of_tells (h : Tells codex a a') :
    notifiedOptions a a' =
      if a.state.lastSentConfigOptions = some (a'.configOptions codex) then []
      else [a'.configOptions codex] := by
  unfold notifiedOptions
  rw [show configUpdates a'.world.sent = _ from h, List.drop_left]

/-- After telling, the client knows the options if they were sent or it knew them. -/
theorem known_of_tells (h : Tells codex a a') (known : Option (List SessionConfigOption)) :
    (notifiedOptions a a').getLast?.or known = some (a'.configOptions codex) ↔
      known = some (a'.configOptions codex) ∨
        a.state.lastSentConfigOptions ≠ some (a'.configOptions codex) := by
  rw [notifiedOptions_of_tells h]
  by_cases hlast : a.state.lastSentConfigOptions = some (a'.configOptions codex)
  · simp [hlast]
  · simp [hlast]

/-- Setting a mode tells about the options, whatever became of the mode. -/
theorem setMode_tells {r r' : Running} {mode : SessionModeId}
    (h : r.step codex (.message (.setMode mode)) = some r') :
    Tells codex r.actor r'.actor := by
  simp only [Running.step, Option.ite_none_right_eq_some, Option.some.injEq] at h
  obtain ⟨_, rfl⟩ := h
  have hframe : SetterFrame codex Untold := untoldFrame
  have huntold := hframe.handleSetMode_frame mode r.actor
  have hanswered : Untold r.actor (r.actor.answer .done (handleSetMode codex mode)) :=
    huntold.trans (.of_keeps (answer_keeps .done (handleSetMode codex mode) r.actor))
  dsimp only
  unfold handleMessage
  exact tells_emit hanswered

/-- A prompt or a steering request that changed a setting told about it, or left
a preset half applied. -/
theorem changed_view {r r' : Running} {m : ThreadMessage}
    (hm : (∃ request, m = .prompt request) ∨ ∃ request, m = .steer request)
    (h : r.step codex (.message m) = some r')
    (hchanged : changedSettings r.actor r'.actor = true) :
    (halfMessage codex r.actor m = false ∧ Tells codex r.actor r'.actor) ∨
      (halfMessage codex r.actor m = true ∧ Untold r.actor r'.actor) := by
  have hsame : ¬ (r'.actor.turnSettings = r.actor.turnSettings ∧
      r'.actor.securitySettings = r.actor.securitySettings) := by
    rintro ⟨hturn, hsecurity⟩
    simp [changedSettings, hturn, hsecurity] at hchanged
  cases settings_effect h with
  | kept hkept => exact absurd ⟨hkept.same.turnSettings_eq, hkept.same.securitySettings_eq⟩ hsame
  | turnStarted hl =>
    rcases hl with ⟨event, hl, _⟩ | ⟨history, hl, _⟩
    · cases hl
    · cases hl
      rcases hm with ⟨request, hm⟩ | ⟨request, hm⟩ <;> cases hm
  | load | setMode | setConfigOption =>
    rcases hm with ⟨request, hm⟩ | ⟨request, hm⟩ <;> cases hm
  | @prompt _ items b hitems hb hafter =>
    have hview : SlashView codex (halfPrompt codex items b) r.actor r'.actor :=
      (promptSubmissionForItems_view items).between hb hafter
    have hhalf : halfMessage codex r.actor m = halfPrompt codex items b := by
      rw [halfMessage, hitems]
    rw [hhalf]
    cases hview with
    | silent hturn hsecurity => exact absurd ⟨hturn, hsecurity⟩ hsame
    | told hwhole htold => exact .inl ⟨hwhole, htold⟩
    | half hhalf huntold => exact .inr ⟨hhalf, huntold⟩

theorem current_iff_of_tells {known : Option (List SessionConfigOption)} {half : Bool}
    (h : (half = false ∧ Tells codex a a') ∨ (half = true ∧ Untold a a')) :
    (notifiedOptions a a').getLast?.or known = some (a'.configOptions codex) ↔
      known = some (a'.configOptions codex) ∨
        a.state.lastSentConfigOptions ≠ some (a'.configOptions codex) ∧ half = false := by
  rcases h with ⟨rfl, htold⟩ | ⟨rfl, huntold⟩
  · rw [known_of_tells htold]
    simp
  · rw [notifiedOptions_of_untold huntold]
    simp

/-- The messages after which the client is to know the options. -/
theorem shows_message {m : ThreadMessage}
    (h : showsOptions a a' (.actor (.message m)) = true) :
    (∃ mode, m = .setMode mode) ∨ (∃ request, m = .prompt request) ∨
      ∃ request, m = .steer request := by
  cases m with
  | setMode mode => exact .inl ⟨mode, rfl⟩
  | prompt request => exact .inr (.inl ⟨request, rfl⟩)
  | steer request => exact .inr (.inr ⟨request, rfl⟩)
  | load | getConfigOptions | controlGoal | setConfigOption | cancel | shutdown
  | replaceClient | replayHistory => cases h

theorem showsOptions_congr {b b' : ThreadActor} (h : SameSettings b b') (l : ViewLabel) :
    showsOptions a b' l = showsOptions a b l := by
  unfold showsOptions changedSettings
  rw [h.turnSettings_eq, h.securitySettings_eq]

/-- A message that is to show the options told about them, or left a preset half
applied. -/
theorem shown_view {r r' : Running} {m : ThreadMessage} (h : r.step codex (.message m) = some r')
    (hshows : showsOptions r.actor r'.actor (.actor (.message m)) = true) :
    (halfMessage codex r.actor m = false ∧ Tells codex r.actor r'.actor) ∨
      (halfMessage codex r.actor m = true ∧ Untold r.actor r'.actor) := by
  rcases shows_message hshows with ⟨mode, rfl⟩ | ⟨request, rfl⟩ | ⟨request, rfl⟩
  · exact .inl ⟨rfl, setMode_tells h⟩
  · exact changed_view (.inl ⟨request, rfl⟩) h hshows
  · exact changed_view (.inr ⟨request, rfl⟩) h hshows

/-- **Every message**: the client knows the options after a message that is to
show them, exactly when it is told them or knows them. -/
theorem clientCurrent_message {s s' : Viewed} {m : ThreadMessage}
    (h : s.step codex (.actor (.message m)) = some s') :
    ClientCurrent codex s (.actor (.message m)) s' ↔
      toldOrKnown codex s (.actor (.message m)) = true := by
  obtain ⟨r, hstep, rfl⟩ := Option.map_eq_some_iff.mp h
  unfold ClientCurrent toldOrKnown
  dsimp only
  by_cases hm : (∃ mode, m = .setMode mode) ∨ (∃ request, m = .prompt request) ∨
      ∃ request, m = .steer request
  · have hactor : r.actor = s.running.actor.handleMessage codex m := by
      simp only [Running.step, Option.ite_none_right_eq_some, Option.some.injEq] at hstep
      rw [← hstep.2]
    have hreaches := handleMessage_reaches codex s.running.actor hm
    rw [← hactor] at hreaches
    rw [← hreaches.configOptions_eq, ← showsOptions_congr hreaches]
    cases hshows : showsOptions s.running.actor r.actor (.actor (.message m)) with
    | false => simp
    | true =>
      have hknown : knownBefore (.message m) s.learned = s.learned := by
        rcases hm with ⟨mode, rfl⟩ | ⟨request, rfl⟩ | ⟨request, rfl⟩ <;> rfl
      rw [hknown, current_iff_of_tells (shown_view hstep hshows)]
      simp
  -- The other messages are not meant to show the options.
  · have hsilent : ∀ b, showsOptions s.running.actor b (.actor (.message m)) = false :=
      fun b => Bool.eq_false_iff.mpr fun hshows => hm (shows_message hshows)
    simp [hsilent]

/-- **Every step**: so it is for the steps of the world, which show nothing. -/
theorem clientCurrent_iff {s s' : Viewed} {l : ViewLabel} (h : s.step codex l = some s') :
    ClientCurrent codex s l s' ↔ toldOrKnown codex s l = true := by
  cases l with
  | deliver n => exact ⟨fun _ => rfl, fun _ hshows => by cases hshows⟩
  | actor l =>
    cases l with
    | message m => exact clientCurrent_message h
    | resolution | noResolution | event | wake | collect | respond | send | closeReceiver
    | modelsChanged => exact ⟨fun _ => rfl, fun _ hshows => by cases hshows⟩

end Steps

/-- **The client's view.** On every run: the client knows the options after every
mode change and every slash command that changed a setting, exactly when each of
them told it or left it with what it knew. -/
theorem clientView_current_iff (codex : Codex) (config : Config) (models : ModelsManager)
    (labels : List ViewLabel) :
    Along (Viewed.step codex) (ClientCurrent codex) ⟨.start config models, [], none⟩ labels ↔
      Along (Viewed.step codex) (fun s l _ => toldOrKnown codex s l = true)
        ⟨.start config models, [], none⟩ labels := by
  refine along_congr ?_ labels _
  intro s l s' h
  exact clientCurrent_iff h

instance (codex : Codex) (s : Viewed) (l : ViewLabel) (s' : Viewed) :
    Decidable (ClientCurrent codex s l s') :=
  inferInstanceAs (Decidable (_ → _))

/-- The plan mode is set, set back as an option, and set again. -/
def backAndForth : List ViewLabel :=
  [.actor (.message (.setMode "plan")), .actor .collect,
   .actor (.message (.setConfigOption "mode" (.valueId "default"))), .actor .collect,
   .actor (.message .getConfigOptions), .actor .collect, .deliver 0,
   .actor (.message (.setMode "plan"))]

/-- **A stale client**: the session plans, and the client was last told that it does not. -/
theorem clientView_stale :
    ¬ Along (Viewed.step Codex.sample) (ClientCurrent Codex.sample)
        ⟨.start Config.sample ModelsManager.sample, [], none⟩ backAndForth ∧
      (exec (Viewed.step Codex.sample) ⟨.start Config.sample ModelsManager.sample, [], none⟩
        backAndForth).map (fun s =>
          (s.learned.bind fun options => options.head?.map (·.currentValue),
            s.running.actor.modes.currentModeId)) = some (some "default", "plan") := by
  decide +kernel

end CodexAcp.Thread
