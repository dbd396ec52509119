/-!
# Handlers: state, early return, and frame rules

A handler of a component reads and writes the component's state and returns a
value, or stops early with an error. What it wrote before the error stays
written: this is the semantics of a method on a mutable receiver whose body
uses an early-return operator, and the reason why "a failed request changes
nothing" is a theorem about a handler and never a feature of the monad.

The rules are stated over a relation `R` between the state before and the
state after:

> `Frame R x`: every run of `x`, failed or not, relates its two states by `R`.

`Frame` composes along `bind` for a transitive `R` and holds of every step
that leaves the state alone for a reflexive one, so a frame fact about a
handler is assembled from the facts about the calls it makes. `FailFrame` says
the same of the runs that fail: a handler that writes only after its last
fallible call fails within every frame of its calls.
-/

namespace CodexAcp.Lib

/-- A fallible sequence that succeeds has a first part that succeeded. -/
theorem except_bind_ok_inv {ε : Type u} {α β : Type v} {x : Except ε α} {f : α → Except ε β}
    {b : β} (h : (x >>= f) = .ok b) : ∃ a, x = .ok a ∧ f a = .ok b := by
  cases x with
  | ok a => exact ⟨a, rfl, h⟩
  | error e => cases h

/-- A computation on a state that returns a value or stops with an error. -/
def Handler (σ : Type u) (ε : Type v) (α : Type w) := σ → Except ε α × σ

namespace Handler

variable {σ : Type u} {τ : Type u} {ε : Type v} {ε' : Type v} {α β : Type w}

/-- Return a value, leave the state alone. -/
protected def pure (a : α) : Handler σ ε α := fun s => (.ok a, s)

/-- Run `x`; on success go on with `f`, on an error stop with what `x` wrote. -/
protected def bind (x : Handler σ ε α) (f : α → Handler σ ε β) : Handler σ ε β := fun s =>
  match x s with
  | (.ok a, s') => f a s'
  | (.error e, s') => (.error e, s')

instance : Monad (Handler σ ε) where
  pure := Handler.pure
  bind := Handler.bind

/-- Stop with an error. -/
def fail (e : ε) : Handler σ ε α := fun s => (.error e, s)

/-- Read the state through `f`. -/
def reads (f : σ → α) : Handler σ ε α := fun s => (.ok (f s), s)

/-- Write the state. -/
def update (f : σ → σ) : Handler σ ε Unit := fun s => (.ok (), f s)

/-- Return what a fallible computation returned. -/
def lift (r : Except ε α) : Handler σ ε α := fun s => (r, s)

/-- Run a handler and return its result as a value, without stopping on an error. -/
def attempt (x : Handler σ ε α) : Handler σ ε' (Except ε α) := fun s =>
  match x s with
  | (r, s') => (.ok r, s')

/-- Run a handler and translate its error. -/
def mapError (f : ε → ε') (x : Handler σ ε α) : Handler σ ε' α := fun s =>
  match x s with
  | (.ok a, s') => (.ok a, s')
  | (.error e, s') => (.error (f e), s')

/-- Run a handler on a part of the state: `get` reads the part, `put` writes it back. -/
def zoom (get : σ → τ) (put : τ → σ → σ) (x : Handler τ ε α) : Handler σ ε α := fun s =>
  match x (get s) with
  | (r, t) => (r, put t s)

/-- Run `x` if the condition holds. -/
def onlyIf (c : Bool) (x : Handler σ ε Unit) : Handler σ ε Unit := if c then x else pure ()

/-- Run `x`; on an error run the cleanup and stop with the error. A cleanup that
fails stops with an error of its own. -/
def onError (x : Handler σ ε α) (cleanup : Handler σ ε Unit) : Handler σ ε α := fun s =>
  match x s with
  | (.ok a, s') => (.ok a, s')
  | (.error e, s') =>
    match cleanup s' with
    | (.ok _, t) => (.error e, t)
    | (.error e', t) => (.error e', t)

/-! ## Running a handler -/

@[simp] theorem pure_run (a : α) (s : σ) : (pure a : Handler σ ε α) s = (.ok a, s) := rfl
@[simp] theorem fail_run (e : ε) (s : σ) : (fail e : Handler σ ε α) s = (.error e, s) := rfl
@[simp] theorem reads_run (f : σ → α) (s : σ) : (reads f : Handler σ ε α) s = (.ok (f s), s) := rfl
@[simp] theorem update_run (f : σ → σ) (s : σ) : (update f : Handler σ ε Unit) s = (.ok (), f s) := rfl
@[simp] theorem lift_run (r : Except ε α) (s : σ) : (lift r : Handler σ ε α) s = (r, s) := rfl
@[simp] theorem attempt_run (x : Handler σ ε α) (s : σ) :
    (attempt x : Handler σ ε' (Except ε α)) s = (.ok (x s).1, (x s).2) := rfl
theorem mapError_run (f : ε → ε') (x : Handler σ ε α) (s : σ) :
    mapError f x s = match x s with
      | (.ok a, s') => (.ok a, s')
      | (.error e, s') => (.error (f e), s') := rfl
@[simp] theorem zoom_run (get : σ → τ) (put : τ → σ → σ) (x : Handler τ ε α) (s : σ) :
    zoom get put x s = ((x (get s)).1, put (x (get s)).2 s) := rfl

theorem bind_run (x : Handler σ ε α) (f : α → Handler σ ε β) (s : σ) :
    (x >>= f) s = match x s with
      | (.ok a, s') => f a s'
      | (.error e, s') => (.error e, s') := rfl

theorem map_run (f : α → β) (x : Handler σ ε α) (s : σ) :
    (f <$> x) s = ((x s).1.map f, (x s).2) := by
  show (x >>= fun a => pure (f a)) s = _
  rw [bind_run]
  match x s with
  | (.ok a, s') => rfl
  | (.error e, s') => rfl

/-- Changing what a handler returns leaves its state as it is. -/
theorem map_state (f : α → β) (x : Handler σ ε α) (s : σ) : ((f <$> x) s).2 = (x s).2 := by
  rw [map_run]

/-- A run that succeeds has a first part that succeeded. -/
theorem bind_ok_inv {x : Handler σ ε α} {f : α → Handler σ ε β} {s t : σ} {b : β}
    (h : (x >>= f) s = (.ok b, t)) : ∃ a s', x s = (.ok a, s') ∧ f a s' = (.ok b, t) := by
  rw [bind_run] at h
  match hx : x s with
  | (.ok a, s') => rw [hx] at h; exact ⟨a, s', rfl, h⟩
  | (.error e, s') => rw [hx] at h; cases h

theorem lift_ok_inv {r : Except ε α} {s s' : σ} {a : α} (h : lift r s = (.ok a, s')) :
    r = .ok a ∧ s' = s :=
  ⟨congrArg Prod.fst h, (congrArg Prod.snd h).symm⟩

theorem onError_run_ok {x : Handler σ ε α} {cleanup : Handler σ ε Unit} {s s' : σ} {a : α}
    (h : x s = (.ok a, s')) : onError x cleanup s = (.ok a, s') := by
  simp only [onError, h]

/-- A cleaned-up run that succeeds is the run itself. -/
theorem onError_ok_inv {x : Handler σ ε α} {cleanup : Handler σ ε Unit} {s s' : σ} {a : α}
    (h : onError x cleanup s = (.ok a, s')) : x s = (.ok a, s') := by
  unfold onError at h
  split at h
  next b t hx => rw [hx]; exact h
  next e t hx =>
    split at h
    next => cases h
    next => cases h

/-- A cleaned-up run that fails is a failed run and its cleanup. -/
theorem onError_error_inv {x : Handler σ ε α} {cleanup : Handler σ ε Unit} {s t : σ} {e : ε}
    (h : onError x cleanup s = (.error e, t)) :
    ∃ e' s', x s = (.error e', s') ∧ (cleanup s').2 = t := by
  unfold onError at h
  split at h
  next => cases h
  next e' s' hx =>
    refine ⟨e', s', hx, ?_⟩
    split at h
    next hc => rw [hc]; cases h; rfl
    next hc => rw [hc]; cases h; rfl

/-- A run that fails does so in its first part or in its second. -/
theorem bind_error_inv {x : Handler σ ε α} {f : α → Handler σ ε β} {s t : σ} {e : ε}
    (h : (x >>= f) s = (.error e, t)) :
    x s = (.error e, t) ∨ ∃ a s', x s = (.ok a, s') ∧ f a s' = (.error e, t) := by
  rw [bind_run] at h
  match hx : x s with
  | (.ok a, s') => rw [hx] at h; exact Or.inr ⟨a, s', rfl, h⟩
  | (.error e', s') => rw [hx] at h; cases h; exact Or.inl rfl

/-- Every value a run of `x` returns meets `P`. -/
def Returns (P : α → Prop) (x : Handler σ ε α) : Prop := ∀ s a s', x s = (.ok a, s') → P a

theorem returns_pure {P : α → Prop} {a : α} (h : P a) :
    Returns P (pure a : Handler σ ε α) := by
  intro s b s' hrun
  cases hrun
  exact h

theorem returns_fail {P : α → Prop} (e : ε) : Returns P (fail e : Handler σ ε α) := by
  intro s b s' hrun
  cases hrun

theorem returns_reads {P : α → Prop} {f : σ → α} (h : ∀ s, P (f s)) :
    Returns P (reads f : Handler σ ε α) := by
  intro s b s' hrun
  cases hrun
  exact h s

/-- A sequence returns what its last part returns. -/
theorem returns_bind {P : β → Prop} {x : Handler σ ε α} {f : α → Handler σ ε β}
    (h : ∀ a, Returns P (f a)) : Returns P (x >>= f) := by
  intro s b t hrun
  obtain ⟨a, s', _, hf⟩ := bind_ok_inv hrun
  exact h a s' b t hf

/-! ## Frame rules -/

/-- Every run of `x`, failed or not, relates the states before and after by `R`. -/
def Frame (R : σ → σ → Prop) (x : Handler σ ε α) : Prop := ∀ s, R s (x s).2

variable {R : σ → σ → Prop}

theorem frame_pure (refl : ∀ s, R s s) (a : α) : Frame R (pure a : Handler σ ε α) :=
  fun s => refl s

theorem frame_fail (refl : ∀ s, R s s) (e : ε) : Frame R (fail e : Handler σ ε α) :=
  fun s => refl s

theorem frame_reads (refl : ∀ s, R s s) (f : σ → α) : Frame R (reads f : Handler σ ε α) :=
  fun s => refl s

theorem frame_lift (refl : ∀ s, R s s) (r : Except ε α) : Frame R (lift r : Handler σ ε α) :=
  fun s => refl s

theorem frame_update {f : σ → σ} (h : ∀ s, R s (f s)) : Frame R (update f : Handler σ ε Unit) :=
  fun s => h s

theorem frame_attempt {x : Handler σ ε α} (h : Frame R x) :
    Frame R (attempt x : Handler σ ε' (Except ε α)) :=
  fun s => h s

theorem frame_mapError {f : ε → ε'} {x : Handler σ ε α} (h : Frame R x) :
    Frame R (mapError f x) := by
  intro s
  have hs := h s
  unfold mapError
  match hx : x s with
  | (.ok a, s') => rw [hx] at hs; exact hs
  | (.error e, s') => rw [hx] at hs; exact hs

/-- **Sequencing.** A transitive frame holds of a sequence when it holds of its parts. -/
theorem frame_bind (trans : ∀ {a b c}, R a b → R b c → R a c)
    {x : Handler σ ε α} {f : α → Handler σ ε β}
    (hx : Frame R x) (hf : ∀ a, Frame R (f a)) : Frame R (x >>= f) := by
  intro s
  have hs := hx s
  rw [bind_run]
  match h : x s with
  | (.ok a, s') => rw [h] at hs; exact trans hs (hf a s')
  | (.error e, s') => rw [h] at hs; exact hs

theorem frame_ite {c : Prop} [Decidable c] {x y : Handler σ ε α} (hx : Frame R x)
    (hy : Frame R y) : Frame R (if c then x else y) := by
  split
  · exact hx
  · exact hy

theorem frame_onError (trans : ∀ {a b c}, R a b → R b c → R a c) {x : Handler σ ε α}
    {cleanup : Handler σ ε Unit} (hx : Frame R x) (hcleanup : Frame R cleanup) :
    Frame R (onError x cleanup) := by
  intro s
  have hs := hx s
  unfold onError
  match h : x s with
  | (.ok a, s') => rw [h] at hs; exact hs
  | (.error e, s') =>
    rw [h] at hs
    have ht := trans hs (hcleanup s')
    match hc : cleanup s' with
    | (.ok _, t) => rw [hc] at ht; simp only [hc]; exact ht
    | (.error _, t) => rw [hc] at ht; simp only [hc]; exact ht

/-- A frame on a part of the state is one on the state. -/
theorem frame_zoom {T : τ → τ → Prop} {get : σ → τ} {put : τ → σ → σ} {x : Handler τ ε α}
    (hput : ∀ s t, T (get s) t → R s (put t s)) (hx : Frame T x) : Frame R (zoom get put x) :=
  fun s => hput s _ (hx (get s))

theorem frame_onlyIf (refl : ∀ s, R s s) {c : Bool} {x : Handler σ ε Unit} (hx : Frame R x) :
    Frame R (onlyIf c x) :=
  frame_ite hx (frame_pure refl ())

/-! ## Failed runs -/

/-- Every run of `x` that fails relates the states before and after by `R`. -/
def FailFrame (R : σ → σ → Prop) (x : Handler σ ε α) : Prop :=
  ∀ s e s', x s = (.error e, s') → R s s'

theorem failFrame_of_frame {x : Handler σ ε α} (h : Frame R x) : FailFrame R x := by
  intro s e s' hrun
  have hs := h s
  rw [hrun] at hs
  exact hs

/-- A handler that never fails. -/
theorem failFrame_of_ok {x : Handler σ ε α} (h : ∀ s, ∃ a, (x s).1 = .ok a) : FailFrame R x := by
  intro s e s' hrun
  obtain ⟨a, ha⟩ := h s
  rw [hrun] at ha
  cases ha

theorem failFrame_ite {c : Prop} [Decidable c] {x y : Handler σ ε α} (hx : FailFrame R x)
    (hy : FailFrame R y) : FailFrame R (if c then x else y) := by
  split
  · exact hx
  · exact hy

/-- A sequence that may fail in its second part, after a first part within the frame. -/
theorem failFrame_bind (trans : ∀ {a b c}, R a b → R b c → R a c)
    {x : Handler σ ε α} {f : α → Handler σ ε β}
    (hx : Frame R x) (hf : ∀ a, FailFrame R (f a)) : FailFrame R (x >>= f) := by
  intro s e t hrun
  have hs := hx s
  rw [bind_run] at hrun
  match h : x s with
  | (.ok a, s') => rw [h] at hrun hs; exact trans hs (hf a s' e t hrun)
  | (.error _, s') => rw [h] at hrun hs; cases hrun; exact hs

/-- A cleaned-up handler fails within a frame of its failed runs and of its cleanup. -/
theorem failFrame_onError (trans : ∀ {a b c}, R a b → R b c → R a c) {x : Handler σ ε α}
    {cleanup : Handler σ ε Unit} (hx : FailFrame R x) (hcleanup : Frame R cleanup) :
    FailFrame R (onError x cleanup) := by
  intro s e t hrun
  obtain ⟨e', s', hfail, rfl⟩ := onError_error_inv hrun
  exact trans (hx s e' s' hfail) (hcleanup s')

/-- A sequence whose second part never fails fails like its first part. -/
theorem failFrame_then {x : Handler σ ε α} {f : α → Handler σ ε β} (hx : FailFrame R x)
    (hf : ∀ a s, ∃ b, (f a s).1 = .ok b) : FailFrame R (x >>= f) := by
  intro s e t hrun
  rw [bind_run] at hrun
  match h : x s with
  | (.ok a, s') =>
    rw [h] at hrun
    obtain ⟨b, hb⟩ := hf a s'
    rw [show (f a s').1 = .error e from congrArg Prod.fst hrun] at hb
    cases hb
  | (.error _, s') => rw [h] at hrun; cases hrun; exact hx s _ _ h

end Handler

end CodexAcp.Lib
