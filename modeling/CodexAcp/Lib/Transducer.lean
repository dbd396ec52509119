import Mathlib.Data.List.Induction

/-!
# Transducers

A transducer answers every input with an output and goes on in another state.
`final` is the state a run of inputs leaves, `trace` what an observer sees of the
answers to them. Rules for what an observer sees of a long run, and for what
holds of the state after it:

> `trace_append`: of two runs one after the other, first the one, then the other.
> `trace_filter`: inputs that show nothing and move nothing that matters can be
> left out of a run.
> `trace_flatMap`: of a run put together from pieces, what is seen of each piece,
> if each is seen the same from every state an invariant allows and leads back
> into it.
> `part_final`: a part of the state that an input sets or leaves is what was set last.
> `final_keeps`: what every input of a run leaves alone is as it was.
> `trace_through`: who sees only what another observer tells, sees that told.
> `final_tracks_iff`: an account kept of the inputs agrees with the state all
> along a run exactly when every input meets the condition under which one does.

Nothing here mentions a particular system.
-/

namespace CodexAcp.Lib

/-- A machine that answers an input and goes on in another state. -/
abbrev Transducer (σ : Type u) (ι : Type v) (ο : Type w) := ι → σ → ο × σ

namespace Transducer

variable {σ : Type u} {ι : Type v} {ο : Type w} {β : Type x} (t : Transducer σ ι ο)

/-- The state after a run of inputs. -/
def final (s : σ) (inputs : List ι) : σ := inputs.foldl (fun s i => (t i s).2) s

/-- What an observer sees of the answers to a run of inputs. -/
def trace (see : ι → ο → List β) : σ → List ι → List β
  | _, [] => []
  | s, i :: inputs => see i (t i s).1 ++ trace see (t i s).2 inputs

variable {t} {see : ι → ο → List β}

theorem final_cons (s : σ) (i : ι) (inputs : List ι) :
    t.final s (i :: inputs) = t.final (t i s).2 inputs := rfl

theorem final_append (s : σ) (inputs inputs' : List ι) :
    t.final s (inputs ++ inputs') = t.final (t.final s inputs) inputs' :=
  List.foldl_append

theorem trace_cons (s : σ) (i : ι) (inputs : List ι) :
    t.trace see s (i :: inputs) = see i (t i s).1 ++ t.trace see (t i s).2 inputs := rfl

theorem trace_append (s : σ) (inputs inputs' : List ι) :
    t.trace see s (inputs ++ inputs') =
      t.trace see s inputs ++ t.trace see (t.final s inputs) inputs' := by
  induction inputs generalizing s with
  | nil => rfl
  | cons i inputs ih =>
    rw [List.cons_append, trace_cons, trace_cons, ih, final_cons, List.append_assoc]

/-- **Inputs that do not matter.** `R` relates states that differ in nothing the
other inputs read. -/
theorem trace_filter {R : σ → σ → Prop} {matters : ι → Bool}
    (hskip : ∀ i s s', matters i = false → R s s' →
      R (t i s).2 s' ∧ see i (t i s).1 = [])
    (hstep : ∀ i s s', matters i = true → R s s' →
      R (t i s).2 (t i s').2 ∧ see i (t i s).1 = see i (t i s').1)
    {s s' : σ} (hR : R s s') (inputs : List ι) :
    t.trace see s inputs = t.trace see s' (inputs.filter matters) := by
  induction inputs generalizing s s' with
  | nil => rfl
  | cons i inputs ih =>
    cases hi : matters i with
    | false =>
      obtain ⟨hR', hsee⟩ := hskip i s s' hi hR
      rw [List.filter_cons_of_neg (by simp [hi]), trace_cons, hsee, List.nil_append]
      exact ih hR'
    | true =>
      obtain ⟨hR', hsee⟩ := hstep i s s' hi hR
      rw [List.filter_cons_of_pos hi, trace_cons, trace_cons, hsee, ih hR']

/-- **Runs in pieces.** Each piece is seen the same from every state of `I`, and
leads back into `I`. -/
theorem trace_flatMap {α : Type y} {I : σ → Prop} {piece : α → List ι} {seen : α → List β}
    (hpiece : ∀ a s, I s → I (t.final s (piece a)) ∧ t.trace see s (piece a) = seen a)
    {s : σ} (hs : I s) (as : List α) :
    t.trace see s (as.flatMap piece) = as.flatMap seen := by
  induction as generalizing s with
  | nil => rfl
  | cons a as ih =>
    obtain ⟨hI, hsee⟩ := hpiece a s hs
    rw [List.flatMap_cons, List.flatMap_cons, trace_append, hsee, ih hI]

/-- **The last word.** `sets` is what an input sets a part of the state to, if it does. -/
theorem part_final {α : Type y} (part : σ → α) {sets : ι → Option α}
    (hstep : ∀ i s, part (t i s).2 = (sets i).getD (part s)) (s : σ) (inputs : List ι) :
    part (t.final s inputs) = (inputs.filterMap sets).getLast?.getD (part s) := by
  induction inputs generalizing s with
  | nil => rfl
  | cons i inputs ih =>
    rw [final_cons, ih, hstep]
    cases hi : sets i with
    | none => rw [List.filterMap_cons_none hi, Option.getD_none]
    | some a =>
      rw [List.filterMap_cons_some hi, List.getLast?_cons, Option.getD_some, Option.getD_some]

theorem final_keeps {α : Type y} (part : σ → α) {inputs : List ι}
    (h : ∀ i ∈ inputs, ∀ s, part (t i s).2 = part s) (s : σ) :
    part (t.final s inputs) = part s := by
  induction inputs generalizing s with
  | nil => rfl
  | cons i inputs ih =>
    rw [List.forall_mem_cons] at h
    rw [final_cons, ih h.2, h.1]

theorem trace_through {γ : Type y} {see' : ι → ο → List γ} (tell : β → List γ)
    {inputs : List ι} (h : ∀ i ∈ inputs, ∀ s, see' i (t i s).1 = (see i (t i s).1).flatMap tell)
    (s : σ) : t.trace see' s inputs = (t.trace see s inputs).flatMap tell := by
  induction inputs generalizing s with
  | nil => rfl
  | cons i inputs ih =>
    rw [List.forall_mem_cons] at h
    rw [trace_cons, trace_cons, List.flatMap_append, ih h.2, h.1]

/-- **Keeping account.** `track` is what an account kept of the inputs does with one; `C` is
the condition under which the account agrees with the state afterwards, too. -/
theorem final_tracks_iff {α : Type y} {track : α → ι → α} {R : σ → α → Prop} {C : α → ι → Prop}
    (hstep : ∀ i s a, R s a → (R (t i s).2 (track a i) ↔ C a i)) {s : σ} {a : α} (hR : R s a)
    (inputs : List ι) :
    (∀ seen, seen <+: inputs → R (t.final s seen) (seen.foldl track a)) ↔
      ∀ before i, before ++ [i] <+: inputs → C (before.foldl track a) i := by
  constructor
  · intro h before i hbefore
    have hrun := h before ((List.prefix_append before [i]).trans hbefore)
    have hnext := h (before ++ [i]) hbefore
    rw [final_append, List.foldl_append] at hnext
    exact (hstep i _ _ hrun).mp hnext
  · intro h seen
    -- A run is longer by one input at its end.
    induction seen using List.reverseRecOn with
    | nil => exact fun _ => hR
    | append_singleton before i ih =>
      intro hseen
      have hrun := ih ((List.prefix_append before [i]).trans hseen)
      rw [final_append, List.foldl_append]
      exact (hstep i _ _ hrun).mpr (h before i hseen)

end Transducer

end CodexAcp.Lib
