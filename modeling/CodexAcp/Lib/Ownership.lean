import CodexAcp.Lib.Handler
import Mathlib.Data.List.Perm.Basic

/-!
# Ownership: what a handler acquires, keeps and releases

A handler that acquires resources has to account for each of them, on every path:
what it held at first and what it acquired is what it keeps, if it succeeds, and
what it released. A handler that fails keeps nothing, for nobody is left to
release it. The accounts are kept in a `Ledger`, a part of the handler's state that
lists what was acquired and what was released.

> `Accounts ledger held post x`: every run of `x` that starts with `held` accounts
> for it; a run that returns `a` keeps a list that `post a` accepts.

The accounts of a sequence are those of its parts (`accounts_bind`), and a step that
may fail while resources are held needs a cleanup that releases them
(`accounts_onError`). Nothing here mentions a particular resource.
-/

namespace CodexAcp.Lib

/-- What was acquired and what was released, in order. -/
structure Ledger (ρ : Type u) where
  acquired : List ρ := []
  released : List ρ := []
  deriving DecidableEq

namespace Ledger

variable {ρ : Type u}

def acquire (r : ρ) (l : Ledger ρ) : Ledger ρ := { l with acquired := l.acquired ++ [r] }

def releaseAll (rs : List ρ) (l : Ledger ρ) : Ledger ρ := { l with released := l.released ++ rs }

/-- From `l` to `m`, so much was acquired and released. -/
structure Grows (l m : Ledger ρ) (acquired released : List ρ) : Prop where
  acquired_eq : m.acquired = l.acquired ++ acquired
  released_eq : m.released = l.released ++ released

theorem grows_refl (l : Ledger ρ) : l.Grows l [] [] :=
  ⟨(List.append_nil _).symm, (List.append_nil _).symm⟩

theorem Grows.trans {l m n : Ledger ρ} {a a' r r' : List ρ} (h : l.Grows m a r)
    (h' : m.Grows n a' r') : l.Grows n (a ++ a') (r ++ r') := by
  constructor
  · rw [h'.acquired_eq, h.acquired_eq, List.append_assoc]
  · rw [h'.released_eq, h.released_eq, List.append_assoc]

theorem grows_acquire (r : ρ) (l : Ledger ρ) : l.Grows (l.acquire r) [r] [] :=
  ⟨rfl, (List.append_nil _).symm⟩

theorem grows_releaseAll (rs : List ρ) (l : Ledger ρ) : l.Grows (l.releaseAll rs) [] rs :=
  ⟨(List.append_nil _).symm, rfl⟩

/-- How much the ledger grew is told by its ends. -/
theorem Grows.unique {l m : Ledger ρ} {a a' r r' : List ρ} (h : l.Grows m a r)
    (h' : l.Grows m a' r') : a = a' ∧ r = r' :=
  ⟨List.append_cancel_left (h.acquired_eq.symm.trans h'.acquired_eq),
    List.append_cancel_left (h.released_eq.symm.trans h'.released_eq)⟩

end Ledger

namespace Handler

variable {σ τ : Type u} {ε : Type v} {ρ : Type x} {α β : Type w}

/-- Every run of `x` that starts with `held` accounts for it: what was held and what
was acquired is what is kept and what was released; a failed run keeps nothing. -/
def Accounts (ledger : σ → Ledger ρ) (held : List ρ) (post : α → List ρ → Prop)
    (x : Handler σ ε α) : Prop :=
  ∀ s, ∃ acquired released, (ledger s).Grows (ledger (x s).2) acquired released ∧
    match (x s).1 with
    | .ok a => ∃ kept, post a kept ∧ (held ++ acquired).Perm (kept ++ released)
    | .error _ => (held ++ acquired).Perm released

variable {ledger : σ → Ledger ρ}

/-- What the run of a handler that succeeds accounts for. -/
theorem Accounts.ok {held : List ρ} {post : α → List ρ → Prop} {x : Handler σ ε α} {s s' : σ}
    {a : α} (h : Accounts ledger held post x) (hx : x s = (.ok a, s')) :
    ∃ acquired released kept, (ledger s).Grows (ledger s') acquired released ∧ post a kept ∧
      (held ++ acquired).Perm (kept ++ released) := by
  obtain ⟨acquired, released, hgrows, hresult⟩ := h s
  rw [hx] at hgrows hresult
  obtain ⟨kept, hpost, hperm⟩ := hresult
  exact ⟨acquired, released, kept, hgrows, hpost, hperm⟩

/-- What the run of a handler that fails accounts for. -/
theorem Accounts.error {held : List ρ} {post : α → List ρ → Prop} {x : Handler σ ε α} {s s' : σ}
    {e : ε} (h : Accounts ledger held post x) (hx : x s = (.error e, s')) :
    ∃ acquired released, (ledger s).Grows (ledger s') acquired released ∧
      (held ++ acquired).Perm released := by
  obtain ⟨acquired, released, hgrows, hresult⟩ := h s
  rw [hx] at hgrows hresult
  exact ⟨acquired, released, hgrows, hresult⟩

theorem Accounts.mono {held : List ρ} {post post' : α → List ρ → Prop} {x : Handler σ ε α}
    (h : Accounts ledger held post x) (hpost : ∀ a kept, post a kept → post' a kept) :
    Accounts ledger held post' x := by
  intro s
  obtain ⟨acquired, released, hgrows, hresult⟩ := h s
  refine ⟨acquired, released, hgrows, ?_⟩
  split at hresult
  next a _ =>
    obtain ⟨kept, hkept, hperm⟩ := hresult
    exact ⟨kept, hpost a kept hkept, hperm⟩
  next => exact hresult

theorem accounts_pure {held : List ρ} {post : α → List ρ → Prop} {a : α} (h : post a held) :
    Accounts ledger held post (pure a : Handler σ ε α) :=
  fun s => ⟨[], [], (ledger s).grows_refl, held, h, List.Perm.refl _⟩

/-- A handler that leaves the ledger alone, when nothing is held. -/
theorem accounts_of_frame {x : Handler σ ε α} (h : Frame (fun s t => ledger t = ledger s) x) :
    Accounts ledger [] (fun _ kept => kept = []) x := by
  intro s
  refine ⟨[], [], ?_, ?_⟩
  · rw [h s]
    exact (ledger s).grows_refl
  · split
    · exact ⟨[], rfl, List.Perm.refl _⟩
    · exact List.Perm.refl _

/-- Releasing a part of what is held. -/
theorem accounts_releaseAll {rest rs : List ρ} {f : σ → σ}
    (h : ∀ s, ledger (f s) = (ledger s).releaseAll rs) :
    Accounts ledger (rest ++ rs) (fun _ kept => kept = rest) (update f : Handler σ ε Unit) := by
  intro s
  refine ⟨[], rs, ?_, rest, rfl, ?_⟩
  · rw [update_run, h s]
    exact Ledger.grows_releaseAll rs (ledger s)
  · rw [List.append_nil]

/-- The order of what is held does not matter. -/
theorem accounts_perm {held held' : List ρ} {post : α → List ρ → Prop} {x : Handler σ ε α}
    (h : held.Perm held') (hx : Accounts ledger held' post x) : Accounts ledger held post x := by
  intro s
  obtain ⟨acquired, released, hgrows, hresult⟩ := hx s
  refine ⟨acquired, released, hgrows, ?_⟩
  have hheld := h.append_right acquired
  split at hresult
  next =>
    obtain ⟨kept, hpost, hperm⟩ := hresult
    exact ⟨kept, hpost, hheld.trans hperm⟩
  next => exact hheld.trans hresult

/-- The ledger may be kept in a part of a part of the state. -/
theorem accounts_zoom {get : τ → σ} {put : σ → τ → τ} {held : List ρ}
    {post : α → List ρ → Prop} {x : Handler σ ε α} (hput : ∀ t s, get (put s t) = s)
    (hx : Accounts ledger held post x) :
    Accounts (fun t => ledger (get t)) held post (zoom get put x) := by
  intro t
  obtain ⟨acquired, released, hgrows, hresult⟩ := hx (get t)
  refine ⟨acquired, released, ?_, hresult⟩
  show (ledger (get t)).Grows (ledger (get (put (x (get t)).2 t))) acquired released
  rw [hput]
  exact hgrows

/-- **Sequencing.** The second part starts with what the first one kept. -/
theorem accounts_bind {held : List ρ} {mid : α → List ρ → Prop} {post : β → List ρ → Prop}
    {x : Handler σ ε α} {f : α → Handler σ ε β} (hx : Accounts ledger held mid x)
    (hf : ∀ a kept, mid a kept → Accounts ledger kept post (f a)) :
    Accounts ledger held post (x >>= f) := by
  intro s
  rw [bind_run]
  match hrun : x s with
  | (.error e, s') =>
    obtain ⟨acquired, released, hgrows, hperm⟩ := hx.error hrun
    exact ⟨acquired, released, hgrows, hperm⟩
  | (.ok a, s') =>
    obtain ⟨acquired, released, kept, hgrows, hmid, hperm⟩ := hx.ok hrun
    show ∃ acquired released, (ledger s).Grows (ledger (f a s').2) acquired released ∧
      match (f a s').1 with
      | .ok b => ∃ kept, post b kept ∧ (held ++ acquired).Perm (kept ++ released)
      | .error _ => (held ++ acquired).Perm released
    obtain ⟨acquired', released', hgrows', hresult⟩ := hf a kept hmid s'
    refine ⟨acquired ++ acquired', released ++ released', hgrows.trans hgrows', ?_⟩
    -- what was held at first reaches the second part as `kept`, less `released`
    have hheld : (held ++ (acquired ++ acquired')).Perm (released ++ (kept ++ acquired')) := by
      rw [← List.append_assoc, ← List.append_assoc]
      exact (hperm.trans List.perm_append_comm).append_right acquired'
    split at hresult
    next b _ =>
      obtain ⟨kept', hpost, hperm'⟩ := hresult
      refine ⟨kept', hpost, hheld.trans ((hperm'.append_left released).trans ?_)⟩
      rw [← List.append_assoc, ← List.append_assoc]
      exact List.perm_append_comm.append_right released'
    next => exact hheld.trans (hresult.append_left released)

/-- A sequence whose first part leaves the ledger alone, when nothing is held. -/
theorem accounts_after {post : β → List ρ → Prop} {x : Handler σ ε α} {f : α → Handler σ ε β}
    (hx : Frame (fun s t => ledger t = ledger s) x) (hf : ∀ a, Accounts ledger [] post (f a)) :
    Accounts ledger [] post (x >>= f) :=
  accounts_bind (accounts_of_frame hx) fun a _ hkept => hkept ▸ hf a

/-- **Cleanup.** A step that accounts for its own resources may fail while others are
held if the cleanup releases those. -/
theorem accounts_onError {held : List ρ} {post : α → List ρ → Prop} {x : Handler σ ε α}
    {cleanup : Handler σ ε Unit} (hx : Accounts ledger [] post x)
    (hcleanup : Accounts ledger held (fun _ kept => kept = []) cleanup) :
    Accounts ledger held (fun a kept => ∃ own, post a own ∧ kept = held ++ own)
      (onError x cleanup) := by
  intro s
  rcases hrun : x s with ⟨e | a, s'⟩
  · -- The cleanup releases what is held, whether or not it fails itself.
    obtain ⟨acquired, released, hgrows, hperm⟩ := hx.error hrun
    obtain ⟨acquired', released', hgrows', hresult⟩ := hcleanup s'
    simp only [onError, hrun]
    have hall : (held ++ acquired').Perm released' := by
      split at hresult
      next =>
        obtain ⟨kept, rfl, hperm'⟩ := hresult
        exact hperm'
      next => exact hresult
    have hgoal : (held ++ (acquired ++ acquired')).Perm (released ++ released') := by
      have hswap : (held ++ (acquired ++ acquired')).Perm (acquired ++ (held ++ acquired')) := by
        rw [← List.append_assoc, ← List.append_assoc]
        exact List.perm_append_comm.append_right acquired'
      exact hswap.trans (hperm.append hall)
    rcases hclean : cleanup s' with ⟨_ | _, t⟩
    · rw [hclean] at hgrows'
      exact ⟨_, _, hgrows.trans hgrows', hgoal⟩
    · rw [hclean] at hgrows'
      exact ⟨_, _, hgrows.trans hgrows', hgoal⟩
  · rw [onError_run_ok hrun]
    obtain ⟨acquired, released, own, hgrows, hpost, hperm⟩ := hx.ok hrun
    refine ⟨acquired, released, hgrows, held ++ own, ⟨own, hpost, rfl⟩, ?_⟩
    rw [List.append_assoc]
    exact hperm.append_left held

/-- A step that leaves the ledger alone may fail while resources are held, if the
cleanup releases them. -/
theorem accounts_onError_of_frame {held : List ρ} {x : Handler σ ε α}
    {cleanup : Handler σ ε Unit} (hx : Frame (fun s t => ledger t = ledger s) x)
    (hcleanup : Accounts ledger held (fun _ kept => kept = []) cleanup) :
    Accounts ledger held (fun _ kept => kept = held) (onError x cleanup) := by
  refine (accounts_onError (accounts_of_frame hx) hcleanup).mono fun _ kept => ?_
  rintro ⟨own, rfl, rfl⟩
  exact List.append_nil held

/-- A step that leaves the ledger alone and whose error is kept as a value. -/
theorem accounts_attempt_of_frame {ε' : Type v} {held : List ρ} {x : Handler σ ε α}
    (hx : Frame (fun s t => ledger t = ledger s) x) :
    Accounts ledger held (fun _ kept => kept = held)
      (attempt x : Handler σ ε' (Except ε α)) := by
  intro s
  refine ⟨[], [], ?_, held, rfl, List.Perm.refl _⟩
  rw [attempt_run, hx s]
  exact (ledger s).grows_refl

theorem accounts_onlyIf {held : List ρ} {c : Bool} {x : Handler σ ε Unit}
    (hx : Accounts ledger held (fun _ kept => kept = held) x) :
    Accounts ledger held (fun _ kept => kept = held) (onlyIf c x) := by
  cases c with
  | true => exact hx
  | false => exact accounts_pure rfl

end Handler

end CodexAcp.Lib
