import CodexAcp.Lib.Dict
import CodexAcp.Lib.Transducer

/-!
# Tables told by notices

A reader keeps a table of rows and is told of them by notices: one that brings a
row, whole, and one that changes the row under a key. A change of a row the reader
was never told of is lost.

What the reader has under a key, whatever the notices about other keys:

> `lookup_play`: it is made by the notices about the key alone.
> `lookup_play_row`: by the changes after the row, if that was the last one.

And when nothing refers to a key before it was introduced:

> `grounded_iff`: every reference finds what introduced its key.
> `Transducer.grounded_trace_iff`: if the inputs of a machine are grounded, its answers
> are, and only then.

Nothing here mentions a particular system.
-/

namespace CodexAcp.Lib

/-- What a reader of a table is told. -/
inductive Notice (κ : Type u) (ρ : Type v) (δ : Type w) where
  | row (key : κ) (row : ρ)
  | change (key : κ) (change : δ)

namespace Notice

variable {κ : Type u} {ρ : Type v} {δ : Type w}

def key : Notice κ ρ δ → κ
  | row key _ | change key _ => key

/-- A row as a notice about it leaves it. -/
def revise (act : δ → ρ → ρ) (had : Option ρ) : Notice κ ρ δ → Option ρ
  | .row _ whole => some whole
  | .change _ part => had.map (act part)

theorem foldl_revise_changes (act : δ → ρ → ρ) (k : κ) (parts : List δ) (row : ρ) :
    (parts.map (change k)).foldl (revise act) (some row) =
      some (parts.foldl (fun row part => act part row) row) := by
  induction parts generalizing row with
  | nil => rfl
  | cons part parts ih => exact ih (act part row)

end Notice

namespace Table

variable {κ : Type u} {ρ : Type v} {δ : Type w} [DecidableEq κ] (act : δ → ρ → ρ)

/-- The table as a notice leaves it. -/
def tell (table : Dict κ ρ) : Notice κ ρ δ → Dict κ ρ
  | .row key whole => table.insert key whole
  | .change key part =>
    match table.lookup key with
    | some row => table.insert key (act part row)
    | none => table

/-- The table as a list of notices leaves it. -/
def play (notices : List (Notice κ ρ δ)) (table : Dict κ ρ) : Dict κ ρ :=
  notices.foldl (tell act) table

/-- The notices about one key. -/
def about (k : κ) (notices : List (Notice κ ρ δ)) : List (Notice κ ρ δ) :=
  notices.filter fun notice => notice.key = k

/-! ## One notice -/

theorem lookup_tell_self (table : Dict κ ρ) (notice : Notice κ ρ δ) :
    (tell act table notice).lookup notice.key = notice.revise act (table.lookup notice.key) := by
  cases notice with
  | row k whole => exact AList.lookup_insert table
  | change k part =>
    show (match table.lookup k with
      | some row => table.insert k (act part row)
      | none => table).lookup k = (table.lookup k).map (act part)
    cases h : table.lookup k with
    | none => exact h
    | some row => exact AList.lookup_insert table

theorem lookup_tell_of_ne {k : κ} {notice : Notice κ ρ δ} (h : notice.key ≠ k)
    (table : Dict κ ρ) : (tell act table notice).lookup k = table.lookup k := by
  cases notice with
  | row k' whole => exact AList.lookup_insert_ne (Ne.symm h)
  | change k' part =>
    show (match table.lookup k' with
      | some row => table.insert k' (act part row)
      | none => table).lookup k = table.lookup k
    cases table.lookup k' with
    | none => rfl
    | some row => exact AList.lookup_insert_ne (Ne.symm h)

/-! ## Lists of notices -/

theorem play_cons (notice : Notice κ ρ δ) (notices : List (Notice κ ρ δ)) (table : Dict κ ρ) :
    play act (notice :: notices) table = play act notices (tell act table notice) := rfl

/-- **One key.** The row under a key is made by the notices about the key alone. -/
theorem lookup_play (notices : List (Notice κ ρ δ)) (table : Dict κ ρ) (k : κ) :
    (play act notices table).lookup k =
      (about k notices).foldl (Notice.revise act) (table.lookup k) := by
  induction notices generalizing table with
  | nil => rfl
  | cons notice notices ih =>
    rw [play_cons, ih]
    by_cases hkey : notice.key = k
    · have habout : about k (notice :: notices) = notice :: about k notices :=
        List.filter_cons_of_pos (decide_eq_true hkey)
      rw [habout, List.foldl_cons]
      subst hkey
      rw [lookup_tell_self]
    · have habout : about k (notice :: notices) = about k notices :=
        List.filter_cons_of_neg (by rwa [decide_eq_true_eq])
      rw [habout, lookup_tell_of_ne act hkey]

/-- What was told of a key before its row was brought does not matter. -/
theorem lookup_play_row {notices : List (Notice κ ρ δ)} {k : κ} {earlier : List (Notice κ ρ δ)}
    {row : ρ} {parts : List δ}
    (h : about k notices = earlier ++ .row k row :: parts.map (Notice.change k))
    (table : Dict κ ρ) :
    (play act notices table).lookup k = some (parts.foldl (fun row part => act part row) row) := by
  rw [lookup_play, h, List.foldl_append, List.foldl_cons]
  exact Notice.foldl_revise_changes act k parts row

end Table

/-! ## References -/

section References

variable {κ : Type u} {α : Type v} (introduces refersTo : α → Option κ)

/-- What refers to a key comes after what introduces it, or the key is known anyway. -/
def Grounded (known : κ → Prop) : List α → Prop
  | [] => True
  | a :: as =>
    (∀ k, refersTo a = some k → known k) ∧
      Grounded (fun k => known k ∨ introduces a = some k) as

variable {introduces refersTo}

theorem Grounded.mono {known known' : κ → Prop} (hknown : ∀ k, known k → known' k) {as : List α}
    (h : Grounded introduces refersTo known as) : Grounded introduces refersTo known' as := by
  induction as generalizing known known' with
  | nil => trivial
  | cons a as ih =>
    exact ⟨fun k hk => hknown k (h.1 k hk), ih (fun k hk => hk.imp_left (hknown k)) h.2⟩

theorem grounded_of_known {known : κ → Prop} {as : List α}
    (h : ∀ a ∈ as, ∀ k, refersTo a = some k → known k) :
    Grounded introduces refersTo known as := by
  induction as generalizing known with
  | nil => trivial
  | cons a as ih =>
    obtain ⟨hfirst, hrest⟩ := List.forall_mem_cons.mp h
    exact ⟨hfirst, ih fun b hb k hk => .inl (hrest b hb k hk)⟩

theorem grounded_append {known : κ → Prop} {as bs : List α} :
    Grounded introduces refersTo known (as ++ bs) ↔
      Grounded introduces refersTo known as ∧
        Grounded introduces refersTo (fun k => known k ∨ ∃ a ∈ as, introduces a = some k) bs := by
  induction as generalizing known with
  | nil =>
    refine ⟨fun h => ⟨trivial, h.mono fun k => .inl⟩, fun h => h.2.mono fun k hk => ?_⟩
    exact hk.resolve_right fun ⟨a, ha, _⟩ => List.not_mem_nil ha
  | cons a as ih =>
    rw [List.cons_append]
    show _ ∧ Grounded _ _ _ (as ++ bs) ↔ (_ ∧ Grounded _ _ _ as) ∧ _
    rw [ih, and_assoc]
    refine and_congr_right fun _ => and_congr_right fun _ => ?_
    have hsame : ∀ k, ((known k ∨ introduces a = some k) ∨ ∃ b ∈ as, introduces b = some k) ↔
        (known k ∨ ∃ b ∈ a :: as, introduces b = some k) := by
      intro k
      rw [or_assoc, List.exists_mem_cons_iff]
    exact ⟨Grounded.mono fun k => (hsame k).mp, Grounded.mono fun k => (hsame k).mpr⟩

/-- **Each reference** finds what introduces its key before it. -/
theorem grounded_iff {known : κ → Prop} {as : List α} :
    Grounded introduces refersTo known as ↔
      ∀ before a, before ++ [a] <+: as → ∀ k, refersTo a = some k →
        known k ∨ ∃ b ∈ before, introduces b = some k := by
  induction as using List.reverseRecOn with
  | nil =>
    refine ⟨fun _ before a hearly => ?_, fun _ => trivial⟩
    exact absurd (List.prefix_nil.mp hearly) (List.append_ne_nil_of_right_ne_nil _
      (List.cons_ne_nil _ _))
  | append_singleton as a ih =>
    rw [grounded_append, ih]
    constructor
    · rintro ⟨hearlier, hlast⟩ before b hearly
      rcases List.prefix_concat_iff.mp hearly with heq | hshort
      · obtain ⟨rfl, hb⟩ := List.append_inj' heq rfl
        cases hb
        exact hlast.1
      · exact hearlier before b hshort
    · intro h
      exact ⟨fun before b hearly => h before b (hearly.trans (List.prefix_append _ _)),
        h as a (List.prefix_refl _), trivial⟩

theorem grounded_congr {known known' : κ → Prop} (h : ∀ k, known k ↔ known' k) {as : List α} :
    Grounded introduces refersTo known as ↔ Grounded introduces refersTo known' as :=
  ⟨Grounded.mono fun k => (h k).mp, Grounded.mono fun k => (h k).mpr⟩

/-- What the inputs of a machine bring and need, and what it watches, account for the answers. -/
structure Transducer.Accounts {σ : Type w} {ι : Type x} {ο : Type y} (t : Transducer σ ι ο)
    (see : ι → ο → List α) (introduces refersTo : α → Option κ) (brings needs : ι → Option κ)
    (watches : σ → κ → Prop) (i : ι) (s : σ) : Prop where
  /-- The answer refers to nothing but what it introduces, what is watched and what is needed. -/
  grounded_iff : ∀ known : κ → Prop, (∀ k, watches s k → known k) →
    (Grounded introduces refersTo known (see i (t i s).1) ↔ ∀ k, needs i = some k → known k)
  introduced : ∀ k, (∃ a ∈ see i (t i s).1, introduces a = some k) → brings i = some k
  brought : ∀ k, brings i = some k → watches s k ∨ ∃ a ∈ see i (t i s).1, introduces a = some k
  watched : ∀ k, watches (t i s).2 k → watches s k ∨ brings i = some k

/-- **Runs.** Of a machine that answers by itself only about what it watches, and watches only what
was brought, the answers are grounded exactly if the inputs are. -/
theorem Transducer.grounded_trace_iff {σ : Type w} {ι : Type x} {ο : Type y} {t : Transducer σ ι ο}
    {see : ι → ο → List α} {brings needs : ι → Option κ} {watches : σ → κ → Prop}
    {Inv : σ → Prop} (hInv : ∀ i s, Inv s → Inv (t i s).2)
    (haccounts : ∀ i s, Inv s → t.Accounts see introduces refersTo brings needs watches i s)
    {s : σ} (hs : Inv s) {known : κ → Prop} (hknown : ∀ k, watches s k → known k)
    (inputs : List ι) :
    Grounded introduces refersTo known (t.trace see s inputs) ↔
      Grounded brings needs known inputs := by
  induction inputs generalizing s known with
  | nil => exact Iff.rfl
  | cons i inputs ih =>
    obtain ⟨hgrounded, hintroduced, hbrought, hwatched⟩ := haccounts i s hs
    have hsame : ∀ k, (known k ∨ ∃ a ∈ see i (t i s).1, introduces a = some k) ↔
        (known k ∨ brings i = some k) := fun k =>
      ⟨Or.imp_right (hintroduced k), fun h => h.elim .inl fun hbrings =>
        (hbrought k hbrings).imp_left (hknown k)⟩
    have hnext : ∀ k, watches (t i s).2 k → known k ∨ brings i = some k := fun k hk =>
      (hwatched k hk).imp_left (hknown k)
    rw [Transducer.trace_cons, grounded_append, grounded_congr hsame, hgrounded known hknown,
      ih (hInv i s hs) hnext]
    exact Iff.rfl

end References

end CodexAcp.Lib
