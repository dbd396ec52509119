/-!
# Runs of a labelled step system

A step system over states `σ` and labels `α` is a partial function
`step : σ → α → Option σ`: the label carries every choice the environment
makes, so a step is deterministic once its label is known, and `none` means
the label is not enabled. `exec` runs a list of labels; `Along` says that
every step the run takes satisfies a step property.

The rules below are the only inductions a safety proof needs:

> `exec_invariant`: what every step preserves holds at the end of every run.
> `exec_origin`: what holds at the end but not at the start was brought about by a step.
> `along_of_invariant`: a step property that follows from an invariant holds
> at every step of every run.

Two of them take a side condition `C` on the steps, for properties that hold on the
runs whose steps all meet `C`; `along_congr` transports a step equivalence to
runs, and `along_iff_of_invariant` one that holds where an invariant does.
Nothing here mentions a particular system.
-/

namespace CodexAcp.Lib

variable {σ : Type u} {α : Type v} {step : σ → α → Option σ}

/-- Run the labels in order; `none` as soon as one is not enabled. -/
def exec (step : σ → α → Option σ) : σ → List α → Option σ
  | s, [] => some s
  | s, l :: ls =>
    match step s l with
    | none => none
    | some s' => exec step s' ls

/-- Every step the run takes satisfies `P` (steps after a label that is not
enabled are not taken, so nothing is asked of them). -/
def Along (step : σ → α → Option σ) (P : σ → α → σ → Prop) : σ → List α → Prop
  | _, [] => True
  | s, l :: ls =>
    match step s l with
    | none => True
    | some s' => P s l s' ∧ Along step P s' ls

@[simp] theorem exec_nil (s : σ) : exec step s [] = some s := rfl

theorem exec_cons_some {s s' : σ} {l : α} (h : step s l = some s') (ls : List α) :
    exec step s (l :: ls) = exec step s' ls := by
  simp only [exec, h]

theorem along_cons_some {P : σ → α → σ → Prop} {s s' : σ} {l : α}
    (h : step s l = some s') (ls : List α) :
    Along step P s (l :: ls) ↔ P s l s' ∧ Along step P s' ls := by
  simp only [Along, h]

/-- A run that gets through its first label steps there and goes on. -/
theorem exec_cons_inv {s t : σ} {l : α} {ls : List α}
    (h : exec step s (l :: ls) = some t) :
    ∃ s', step s l = some s' ∧ exec step s' ls = some t := by
  cases hs : step s l with
  | none => simp only [exec, hs] at h; cases h
  | some s' => exact ⟨s', rfl, by rw [exec_cons_some hs] at h; exact h⟩

/-- Running two label lists one after the other. -/
theorem exec_append {s t : σ} :
    ∀ (ls ls' : List α), exec step s (ls ++ ls') = some t ↔
      ∃ m, exec step s ls = some m ∧ exec step m ls' = some t := by
  intro ls
  induction ls generalizing s with
  | nil => intro ls'; simp
  | cons l ls ih =>
    intro ls'
    cases hs : step s l with
    | none => simp [exec, hs]
    | some s' => simp only [List.cons_append, exec, hs]; exact ih ls'

/-- Each half of a run meets what the whole run meets. -/
theorem along_append {P : σ → α → σ → Prop} {s m : σ} {ls ls' : List α}
    (hm : exec step s ls = some m) :
    Along step P s (ls ++ ls') ↔ Along step P s ls ∧ Along step P m ls' := by
  induction ls generalizing s with
  | nil =>
    cases hm
    simp [Along]
  | cons l ls ih =>
    obtain ⟨s', hs, hrest⟩ := exec_cons_inv hm
    rw [List.cons_append, along_cons_some hs, along_cons_some hs, ih hrest, and_assoc]

/-- **Invariant rule.** What every step meeting `C` preserves holds at the end
of every run whose steps all meet `C`. -/
theorem exec_invariant {C : σ → α → σ → Prop} {I : σ → Prop}
    (hstep : ∀ s l s', I s → C s l s' → step s l = some s' → I s') :
    ∀ (ls : List α) {s t : σ}, I s → Along step C s ls → exec step s ls = some t → I t := by
  intro ls
  induction ls with
  | nil => intro s t hI _ ht; cases ht; exact hI
  | cons l ls ih =>
    intro s t hI hC ht
    obtain ⟨s', hs, hrest⟩ := exec_cons_inv ht
    rw [along_cons_some hs] at hC
    exact ih (hstep s l s' hI hC.1 hs) hC.2 hrest

/-- **Origin rule.** What does not hold at the start of a run but at its end is
brought about by one of its steps. -/
theorem exec_origin {Q : σ → Prop} {s t : σ} {ls : List α} (hrun : exec step s ls = some t)
    (hs : ¬ Q s) (ht : Q t) :
    ∃ before l after m m', ls = before ++ l :: after ∧ exec step s before = some m ∧
      step m l = some m' ∧ ¬ Q m ∧ Q m' := by
  induction ls generalizing s with
  | nil =>
    cases hrun
    exact absurd ht hs
  | cons l ls ih =>
    obtain ⟨s', hstep, hrest⟩ := exec_cons_inv hrun
    by_cases hs' : Q s'
    · exact ⟨[], l, ls, s, s', rfl, rfl, hstep, hs, hs'⟩
    · obtain ⟨before, l', after, m, m', rfl, hbefore, hstep', hm, hm'⟩ := ih hrest hs'
      refine ⟨l :: before, l', after, m, m', rfl, ?_, hstep', hm, hm'⟩
      rw [exec_cons_some hstep, hbefore]

/-- **Step rule.** A step property that an invariant entails holds at every
step of every run whose steps all meet `C`. -/
theorem along_of_invariant {C P : σ → α → σ → Prop} {I : σ → Prop}
    (hstep : ∀ s l s', I s → C s l s' → step s l = some s' → I s' ∧ P s l s') :
    ∀ (ls : List α) {s : σ}, I s → Along step C s ls → Along step P s ls := by
  intro ls
  induction ls with
  | nil => intro s _ _; trivial
  | cons l ls ih =>
    intro s hI hC
    cases hs : step s l with
    | none => simp only [Along, hs]
    | some s' =>
      rw [along_cons_some hs] at hC ⊢
      obtain ⟨hI', hP⟩ := hstep s l s' hI hC.1 hs
      exact ⟨hP, ih hI' hC.2⟩

/-- A step property that entails another one on every step does so along every run. -/
theorem along_mono {P Q : σ → α → σ → Prop}
    (h : ∀ s l s', step s l = some s' → P s l s' → Q s l s') {ls : List α} {s : σ}
    (hP : Along step P s ls) : Along step Q s ls := by
  induction ls generalizing s with
  | nil => trivial
  | cons l ls ih =>
    cases hs : step s l with
    | none => simp only [Along, hs]
    | some s' =>
      rw [along_cons_some hs] at hP ⊢
      exact ⟨h s l s' hs hP.1, ih hP.2⟩

/-- A decidable step property is decided along a run by running it. -/
instance decidableAlong {P : σ → α → σ → Prop} [∀ s l s', Decidable (P s l s')] :
    ∀ (ls : List α) (s : σ), Decidable (Along step P s ls)
  | [], _ => isTrue trivial
  | l :: ls, s =>
    match hs : step s l with
    | none => isTrue (by simp only [Along, hs])
    | some s' =>
      have := decidableAlong ls s' (P := P)
      decidable_of_iff (P s l s' ∧ Along step P s' ls) (along_cons_some hs ls).symm

/-- Two step properties that agree on every step agree along every run. -/
theorem along_congr {P Q : σ → α → σ → Prop}
    (h : ∀ s l s', step s l = some s' → (P s l s' ↔ Q s l s')) :
    ∀ (ls : List α) (s : σ), Along step P s ls ↔ Along step Q s ls := by
  intro ls
  induction ls with
  | nil => intro s; exact Iff.rfl
  | cons l ls ih =>
    intro s
    cases hs : step s l with
    | none => simp only [Along, hs]
    | some s' => rw [along_cons_some hs, along_cons_some hs, h s l s' hs, ih s']

/-- What holds of every step holds along every run. -/
theorem along_of_forall {P : σ → α → σ → Prop} (h : ∀ s l s', P s l s') :
    ∀ (ls : List α) (s : σ), Along step P s ls := by
  intro ls
  induction ls with
  | nil => intro s; trivial
  | cons l ls ih =>
    intro s
    cases hs : step s l with
    | none => simp only [Along, hs]
    | some s' => rw [along_cons_some hs]; exact ⟨h s l s', ih s'⟩

/-- Every state of the run has `P`, the first one included. -/
def Throughout (step : σ → α → Option σ) (P : σ → Prop) (s : σ) (ls : List α) : Prop :=
  P s ∧ Along step (fun _ _ s' => P s') s ls

/-- Two properties that agree in every state agree throughout every run. -/
theorem throughout_congr {P Q : σ → Prop} (h : ∀ s, P s ↔ Q s) (s : σ) (ls : List α) :
    Throughout step P s ls ↔ Throughout step Q s ls :=
  and_congr (h s) (along_congr (fun _ _ s' _ => h s') ls s)

instance decidableThroughout {P : σ → Prop} [∀ s, Decidable (P s)] (s : σ) (ls : List α) :
    Decidable (Throughout step P s ls) :=
  inferInstanceAs (Decidable (_ ∧ _))

/-- Two step properties that agree wherever an invariant holds agree along every
run that starts in it, if the one that is known to hold keeps the invariant. -/
theorem along_iff_of_invariant {E C P : σ → α → σ → Prop} {I : σ → Prop}
    (hstep : ∀ s l s', I s → E s l s' → step s l = some s' →
      (C s l s' ↔ P s l s') ∧ (C s l s' → I s')) :
    ∀ (ls : List α) {s : σ}, I s → Along step E s ls → (Along step C s ls ↔ Along step P s ls) := by
  intro ls
  induction ls with
  | nil => intro s _ _; exact Iff.rfl
  | cons l ls ih =>
    intro s hI hE
    cases hs : step s l with
    | none => simp only [Along, hs]
    | some s' =>
      rw [along_cons_some hs] at hE ⊢
      rw [along_cons_some hs]
      obtain ⟨hiff, hkeep⟩ := hstep s l s' hI hE.1 hs
      constructor
      · rintro ⟨hC, hrest⟩
        exact ⟨hiff.mp hC, (ih (hkeep hC) hE.2).mp hrest⟩
      · rintro ⟨hP, hrest⟩
        have hC := hiff.mpr hP
        exact ⟨hC, (ih (hkeep hC) hE.2).mpr hrest⟩

end CodexAcp.Lib
