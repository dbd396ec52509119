import CodexAcp.Thread.Reached

/-!
# Setting the service tier

The service tier is kept three times: in the configuration file, where the next
start reads it, in the runtime, and in the actor's configuration. Setting it
writes the three in this order, and the first two writes can be refused.

> `tierRequest_whole_iff`: a request is all or nothing exactly when it is not the
> second write that is refused, or the file held the tier already.
> `serviceTier_half`: the override is refused, the request fails, and the next
> start runs with the tier that was refused.
-/

namespace CodexAcp.Thread

open CodexAcp.Lib CodexAcp.Protocol CodexAcp.Boundary ThreadActor

/-! ## The three copies -/

structure TierCopies where
  persisted : Option String
  runtime : Option String
  configured : Option String
  deriving DecidableEq, Repr

/-- The three copies agree. -/
def TierCopies.all (value : Option String) : TierCopies := ⟨value, value, value⟩

/-- The copies of an actor that started with `file` in the configuration file and
with the runtime at `init`. -/
def ThreadActor.tierCopies (file : Option String) (init : TurnSettings) (a : ThreadActor) :
    TierCopies :=
  { persisted := a.world.savedTiers.getLast?.getD file
    runtime := (init.after a.world.accepted).serviceTier
    configured := a.config.serviceTier }

/-! ## Requests -/

/-- The ways to the setter: itself, the configuration option, and the slash command. -/
inductive TierRequest where
  | setServiceTier (serviceTier : Option ServiceTier)
  | configOption (value : SessionConfigOptionValue)
  | fastCommand (args : String)
  deriving DecidableEq, Repr

namespace TierRequest

def handle (codex : Codex) : TierRequest → Handler ThreadActor Error Unit
  | setServiceTier serviceTier => ThreadActor.setServiceTier codex serviceTier
  | configOption value => handleSetConfigOption codex "service_tier" value
  | fastCommand args => (fun _ => ()) <$> handleFastCommand codex args

/-- The tier a value of the configuration option stands for. -/
def optionTier (value : String) : Option (Option ServiceTier) :=
  if value = "default" || value = "off" then some none
  else if value = "fast" || value = "on" then some (some .fast)
  else if value = "flex" then some (some .flex)
  else none

/-- The tier a request asks for, if it asks for one. -/
def asks (codex : Codex) (a : ThreadActor) : TierRequest → Option (Option ServiceTier)
  | setServiceTier serviceTier => some serviceTier
  | configOption (.valueId value) => if a.fastModeConfigurable then optionTier value else none
  | configOption .other => none
  | fastCommand args =>
    match fastCommandAsks codex args a with
    | some (.serviceTier serviceTier) => some serviceTier
    | _ => none

/-- What a request may come to: it succeeded and the copies are all the tier it asked
for, or none has changed. -/
def SetsWhole (codex : Codex) (file : Option String) (init : TurnSettings) (request : TierRequest)
    (a : ThreadActor) : Prop :=
  match request.asks codex a with
  | some serviceTier =>
    match request.handle codex a with
    | (.ok (), b) =>
      b.tierCopies file init = .all (serviceTier.map codex.serviceTierRequestValue)
    | (.error _, b) => b.tierCopies file init = a.tierCopies file init
  | none => (request.handle codex a).2.tierCopies file init = a.tierCopies file init

end TierRequest

/-- The configuration file takes the tier, and Codex refuses its override. -/
def halfSaved (codex : Codex) (a : ThreadActor) (value : Option String) : Bool :=
  (codex.editServiceTier a.world.calls value).isOk &&
    !(codex.submit (a.world.calls + 1) (overrideServiceTier value)).isOk

/-- The condition: what is half saved was in the file before. -/
def TierRequest.SavesWhole (codex : Codex) (file : Option String) (request : TierRequest)
    (a : ThreadActor) : Prop :=
  ∀ serviceTier, request.asks codex a = some serviceTier →
    halfSaved codex a (serviceTier.map codex.serviceTierRequestValue) = true →
      a.world.savedTiers.getLast?.getD file = serviceTier.map codex.serviceTierRequestValue

/-! ## The setter -/

section Setter

variable (codex : Codex) (file : Option String) (init : TurnSettings) (a : ThreadActor)

/-- The setter is refused at its first write, or at its second, or it writes all three copies. -/
theorem setServiceTier_cases (serviceTier : Option ServiceTier) :
    let value := serviceTier.map codex.serviceTierRequestValue
    (halfSaved codex a value = false ∧
        ∃ e, setServiceTier codex serviceTier a = (.error e, a.called)) ∨
      (halfSaved codex a value = true ∧
        ∃ e, setServiceTier codex serviceTier a = (.error e, (a.saved value).called)) ∨
      (halfSaved codex a value = false ∧
        ∃ id, setServiceTier codex serviceTier a =
          (.ok (), ((a.saved value).accept (overrideServiceTier value) id).withServiceTier value)) := by
  unfold setServiceTier halfSaved
  dsimp only
  generalize serviceTier.map codex.serviceTierRequestValue = value
  rw [Handler.bind_run, editServiceTier_run]
  cases codex.editServiceTier a.world.calls value with
  | error e => exact .inl ⟨rfl, _, rfl⟩
  | ok _ =>
    dsimp only
    rw [Handler.bind_run, submitOk_run,
      show (a.saved value).world.calls = a.world.calls + 1 from rfl]
    cases codex.submit (a.world.calls + 1) (overrideServiceTier value) with
    | error e => exact .inr (.inl ⟨rfl, _, rfl⟩)
    | ok id => exact .inr (.inr ⟨rfl, id, rfl⟩)

/-- A tier that was saved is the persisted one. -/
theorem saved_copies (value : Option String) :
    (a.saved value).called.tierCopies file init =
      { a.tierCopies file init with persisted := value } := by
  unfold tierCopies saved called
  simp

/-- With the override accepted, the copies are all the tier. -/
theorem set_copies (value : Option String) (id : String) :
    (((a.saved value).accept (overrideServiceTier value) id).withServiceTier value).tierCopies file
      init = .all value := by
  have hruntime : (init.after (a.world.accepted ++ [(overrideServiceTier value, id)])).serviceTier =
      value := by
    rw [TurnSettings.after_append]
    rfl
  unfold tierCopies saved accept withServiceTier TierCopies.all
  simp [hruntime]

/-- **The setter** is all or nothing when it is not refused half-way, or the file held the
tier before. -/
theorem setServiceTier_whole_iff (serviceTier : Option ServiceTier) :
    (match setServiceTier codex serviceTier a with
      | (.ok (), b) =>
        b.tierCopies file init = .all (serviceTier.map codex.serviceTierRequestValue)
      | (.error _, b) => b.tierCopies file init = a.tierCopies file init) ↔
      (halfSaved codex a (serviceTier.map codex.serviceTierRequestValue) = true →
        a.world.savedTiers.getLast?.getD file =
          serviceTier.map codex.serviceTierRequestValue) := by
  rcases setServiceTier_cases codex a serviceTier with
    ⟨hhalf, e, hrun⟩ | ⟨hhalf, e, hrun⟩ | ⟨hhalf, id, hrun⟩
  · rw [hrun, hhalf]
    exact ⟨nofun, fun _ => rfl⟩
  · rw [hrun, hhalf]
    dsimp only
    rw [saved_copies]
    exact ⟨fun h _ => (congrArg TierCopies.persisted h).symm, fun h => by rw [← h rfl]; rfl⟩
  · rw [hrun, hhalf]
    exact ⟨nofun, fun _ => set_copies file init a _ id⟩

end Setter

/-! ## The ways to the setter -/

section Requests

variable {codex : Codex} {a : ThreadActor} {serviceTier : Option ServiceTier}

/-- Telling the editor about the options changes none of the copies. -/
theorem emit_copies (file : Option String) (init : TurnSettings) (b : ThreadActor) :
    (b.maybeEmitConfigOptionsUpdate codex).tierCopies file init = b.tierCopies file init := by
  unfold maybeEmitConfigOptionsUpdate
  dsimp only
  split <;> rfl

/-- The slash command runs the setter and tells the editor, or it only answers. -/
theorem handleFastCommand_eq (args : String) :
    match TierRequest.asks codex a (.fastCommand args) with
    | some serviceTier =>
      handleFastCommand codex args a = setServiceTierAndEmit codex serviceTier a
    | none => ∃ text, handleFastCommand codex args a = (.ok text, a) := by
  unfold handleFastCommand TierRequest.asks fastCommandAsks
  rw [Handler.bind_run, Handler.reads_run]
  dsimp only [id]
  by_cases hoff : (!a.fastModeConfigurable) = true
  · rw [if_pos hoff, if_pos hoff]
    exact ⟨_, rfl⟩
  rw [if_neg hoff, if_neg hoff]
  generalize Text.toAsciiLowercase (Text.trim args) = arg
  by_cases htoggle : arg = ""
  · rw [if_pos htoggle, if_pos htoggle]
  rw [if_neg htoggle, if_neg htoggle]
  by_cases hon : arg = "on"
  · rw [if_pos hon, if_pos hon]
  rw [if_neg hon, if_neg hon]
  by_cases hdefault : arg = "off"
  · rw [if_pos hdefault, if_pos hdefault]
  rw [if_neg hdefault, if_neg hdefault]
  dsimp only
  split <;> exact ⟨_, rfl⟩

/-- The configuration option runs the setter, or it is refused. -/
theorem handleSetServiceTier_eq (value : String) :
    match TierRequest.asks codex a (.configOption (.valueId value)) with
    | some serviceTier =>
      handleSetServiceTier codex value a = setServiceTier codex serviceTier a
    | none => ∃ e, handleSetServiceTier codex value a = (.error e, a) := by
  unfold handleSetServiceTier TierRequest.asks TierRequest.optionTier
  rw [Handler.bind_run, Handler.reads_run]
  dsimp only [id]
  by_cases hfast : a.fastModeConfigurable
  · rw [if_pos hfast]
    rw [show (!a.fastModeConfigurable) = false by simp [hfast], if_neg Bool.false_ne_true]
    by_cases hdefault : (decide (value = "default") || decide (value = "off")) = true
    · rw [if_pos hdefault, if_pos hdefault]
    rw [if_neg hdefault, if_neg hdefault]
    by_cases hon : (decide (value = "fast") || decide (value = "on")) = true
    · rw [if_pos hon, if_pos hon]
    rw [if_neg hon, if_neg hon]
    by_cases hflex : value = "flex"
    · rw [if_pos hflex, if_pos hflex]
    · rw [if_neg hflex, if_neg hflex]
      exact ⟨_, rfl⟩
  · rw [if_neg hfast, if_pos (by simpa using hfast)]
    exact ⟨_, rfl⟩

/-- A request that asks for no tier leaves the actor alone. -/
theorem handle_unasked {request : TierRequest} (h : request.asks codex a = none) :
    (request.handle codex a).2 = a := by
  cases request with
  | setServiceTier serviceTier => cases h
  | configOption value =>
    cases value with
    | other => rfl
    | valueId value =>
      have heq := @handleSetServiceTier_eq codex a value
      rw [h] at heq
      obtain ⟨e, hrun⟩ := heq
      show (handleSetServiceTier codex value a).2 = a
      rw [hrun]
  | fastCommand args =>
    have heq := @handleFastCommand_eq codex a args
    rw [h] at heq
    obtain ⟨text, hrun⟩ := heq
    show (((fun _ => ()) <$> handleFastCommand codex args : Handler _ _ _) a).2 = a
    rw [Handler.map_state, hrun]

/-- A request that asks for a tier comes to what the setter comes to. -/
theorem handle_asked {request : TierRequest} (h : request.asks codex a = some serviceTier) :
    (request.handle codex a).1 = (setServiceTier codex serviceTier a).1 ∧
      ∀ file init, (request.handle codex a).2.tierCopies file init =
        (setServiceTier codex serviceTier a).2.tierCopies file init := by
  cases request with
  | setServiceTier serviceTier =>
    cases h
    exact ⟨rfl, fun _ _ => rfl⟩
  | configOption value =>
    cases value with
    | other => cases h
    | valueId value =>
      have heq := @handleSetServiceTier_eq codex a value
      rw [h] at heq
      show (handleSetServiceTier codex value a).1 = _ ∧ ∀ file init,
        (handleSetServiceTier codex value a).2.tierCopies file init = _
      rw [heq]
      exact ⟨rfl, fun _ _ => rfl⟩
  | fastCommand args =>
    have heq := @handleFastCommand_eq codex a args
    rw [h] at heq
    show (((fun _ => ()) <$> handleFastCommand codex args : Handler _ _ _) a).1 = _ ∧
      ∀ file init, (((fun _ => ()) <$> handleFastCommand codex args : Handler _ _ _) a).2.tierCopies
        file init = _
    rw [Handler.map_run, heq]
    unfold setServiceTierAndEmit
    rw [Handler.bind_run]
    match setServiceTier codex serviceTier a with
    | (.ok (), b) => exact ⟨rfl, fun file init => emit_copies file init b⟩
    | (.error e, b) => exact ⟨rfl, fun _ _ => rfl⟩

/-- **Setting the tier is all or nothing**, whichever way it is asked for, exactly when it
is not refused half-way, or the file held the tier before. -/
theorem tierRequest_whole_iff (codex : Codex) (file : Option String) (init : TurnSettings)
    (request : TierRequest) (a : ThreadActor) :
    request.SetsWhole codex file init a ↔ request.SavesWhole codex file a := by
  unfold TierRequest.SetsWhole TierRequest.SavesWhole
  cases hasks : request.asks codex a with
  | none =>
    dsimp only
    rw [handle_unasked hasks]
    exact ⟨fun _ => nofun, fun _ => rfl⟩
  | some serviceTier =>
    obtain ⟨hresult, hcopies⟩ := handle_asked hasks
    have hset := setServiceTier_whole_iff codex file init a serviceTier
    have hone : ∀ P : Option ServiceTier → Prop,
        (∀ tier, some serviceTier = some tier → P tier) ↔ P serviceTier :=
      fun P => ⟨fun h => h serviceTier rfl, fun h tier htier => by cases htier; exact h⟩
    dsimp only
    rw [hone]
    refine Iff.trans ?_ hset
    specialize hcopies file init
    match hrun : request.handle codex a, hsetRun : setServiceTier codex serviceTier a with
    | (.ok (), b), (.ok (), c) =>
      rw [hrun, hsetRun] at hcopies
      exact Iff.of_eq (congrArg (· = _) hcopies)
    | (.error e, b), (.error e', c) =>
      rw [hrun, hsetRun] at hcopies
      exact Iff.of_eq (congrArg (· = _) hcopies)
    | (.ok (), b), (.error e, c) | (.error e, b), (.ok (), c) =>
      rw [hrun, hsetRun] at hresult
      cases hresult

end Requests

/-! ## A half-saved tier -/

/-- Codex refuses every op. -/
def refusing : Codex := { Codex.sample with submit := fun _ _ => .error "refused" }

/-- **A half-saved tier.** Fast mode is asked for and refused, and the file has it. -/
theorem serviceTier_half :
    (let a := (Running.start Config.sample ModelsManager.sample).actor
     let run := (TierRequest.setServiceTier (some .fast)).handle refusing a
     run.1 = .error (Error.fromAnyhow "refused") ∧
      run.2.tierCopies none a.turnSettings = ⟨some "priority", none, none⟩ ∧
      ¬ (TierRequest.setServiceTier (some .fast)).SetsWhole refusing none a.turnSettings a) := by
  refine ⟨rfl, rfl, fun h => ?_⟩
  exact absurd (congrArg TierCopies.persisted h) (by decide)

end CodexAcp.Thread
