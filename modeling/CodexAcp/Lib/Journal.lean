import CodexAcp.Lib.Dict

/-!
# Playing a log again

A component keeps a state that a log of operations is folded into, and other
writes, which are not in the log, change the state as well. Played into the state
it already made, the log overwrites those. `Settled act log s` says that there is
nothing to overwrite: playing the log into `s` leaves `s` as it is.

Three kinds of state, and when they are settled:

> `settled_write_iff`: a register, when it holds the last value the log writes.
> `settled_edits`: a dictionary, when the log was played into it.
> `settled_iff_of_reset`: any state, once an operation of the log leaves no trace of
> what was there before, when the log makes it from whatever it starts with.
> `settled_of_reset_or_clear`: any state that the log was played into, when the other
> operations leave it alone or empty it.

Nothing here mentions a particular component.
-/

namespace CodexAcp.Lib

variable {σ : Type u} {ω : Type v} {β : Type w}

/-- Playing the log into the state leaves the state as it is. -/
def Settled (act : σ → ω → σ) (log : List ω) (s : σ) : Prop := log.foldl act s = s

/-! ## Registers -/

/-- A register that some operations write. -/
def write (w : ω → Option β) (b : β) (op : ω) : β := (w op).getD b

/-- The last value a log writes to a register. -/
def lastWrite (w : ω → Option β) (log : List ω) : Option β :=
  log.foldl (fun last op => (w op).or last) none

theorem foldl_or (w : ω → Option β) (log : List ω) (last : Option β) :
    log.foldl (fun last op => (w op).or last) last = (lastWrite w log).or last := by
  unfold lastWrite
  induction log generalizing last with
  | nil => rfl
  | cons op log ih =>
    rw [List.foldl_cons, List.foldl_cons, ih, ih ((w op).or none), Option.or_none, Option.or_assoc]

theorem lastWrite_append (w : ω → Option β) (log ops : List ω) :
    lastWrite w (log ++ ops) = (lastWrite w ops).or (lastWrite w log) := by
  rw [lastWrite, List.foldl_append, foldl_or]
  rfl

/-- **A register** holds the last value written to it, or what it held. -/
theorem foldl_write (w : ω → Option β) (log : List ω) (b : β) :
    log.foldl (write w) b = (lastWrite w log).getD b := by
  induction log generalizing b with
  | nil => rfl
  | cons op log ih =>
    -- A later write wins over the one at the head, which wins over what was there.
    rw [List.foldl_cons, ih, ← List.singleton_append, lastWrite_append]
    cases lastWrite w log with
    | none => show (w op).getD b = (((w op).or none)).getD b; rw [Option.or_none]
    | some v => rfl

/-- A log that does not write a register. -/
theorem foldl_write_of_none {w : ω → Option β} {log : List ω} (h : ∀ op ∈ log, w op = none)
    (b : β) : log.foldl (write w) b = b := by
  induction log with
  | nil => rfl
  | cons op log ih =>
    rw [List.foldl_cons, write, h op (List.mem_cons_self ..)]
    exact ih fun op' hmem => h op' (List.mem_cons_of_mem _ hmem)

theorem settled_write_iff {w : ω → Option β} {log : List ω} {b : β} :
    Settled (write w) log b ↔ ∀ v, lastWrite w log = some v → b = v := by
  unfold Settled
  rw [foldl_write]
  cases lastWrite w log with
  | none => simp
  | some v => simp [eq_comm]

/-- A register that a log was played into is left as it is by the log. -/
theorem settled_write (w : ω → Option β) (log : List ω) (b : β) :
    Settled (write w) log (log.foldl (write w) b) := by
  rw [settled_write_iff]
  intro v hv
  rw [foldl_write, hv]
  rfl

/-- Operations that are logged as they are made keep a register settled. -/
theorem settled_write_append {w : ω → Option β} {log : List ω} {b : β}
    (h : Settled (write w) log b) (ops : List ω) :
    Settled (write w) (log ++ ops) (ops.foldl (write w) b) := by
  rw [settled_write_iff] at h ⊢
  intro v hv
  rw [foldl_write]
  rw [lastWrite_append] at hv
  cases hops : lastWrite w ops with
  | none => rw [hops] at hv; exact h v hv
  | some v' => rw [hops] at hv; exact Option.some.inj hv

/-- Another value is settled where the log writes nothing. -/
theorem settled_write_other {w : ω → Option β} {log : List ω} {b : β}
    (h : Settled (write w) log b) (b' : β) :
    Settled (write w) log b' ↔ ((lastWrite w log).isSome = true → b' = b) := by
  rw [settled_write_iff] at h ⊢
  cases hlast : lastWrite w log with
  | none => simp
  | some v =>
    rw [h v hlast]
    simp

theorem lastWrite_isSome (w : ω → Option β) (log : List ω) :
    (lastWrite w log).isSome = log.any fun op => (w op).isSome := by
  induction log with
  | nil => rfl
  | cons op log ih =>
    rw [← List.singleton_append, lastWrite_append, Option.isSome_or, ih, List.any_append]
    show (_ || ((w op).or none).isSome) = ([op].any _ || _)
    rw [Option.or_none, Bool.or_comm, List.any_cons, List.any_nil, Bool.or_false]

/-! ## Dictionaries -/

/-- An edit of a dictionary. -/
inductive Edit (κ : Type u) (ν : Type v) where
  | put (key : κ) (value : ν)
  | del (key : κ)

namespace Edit

variable {κ : Type u} {ν : Type v}

def key : Edit κ ν → κ
  | put key _ => key
  | del key => key

def apply [DecidableEq κ] (d : Dict κ ν) : Edit κ ν → Dict κ ν
  | put key value => d.insert key value
  | del key => d.erase key

end Edit

section Dictionaries

variable {κ : Type u} {ν : Type v} [DecidableEq κ]

/-- The entries under other keys. -/
def Dict.without (keys : List κ) (d : Dict κ ν) : Dict κ ν := d.retain fun k _ => decide (k ∉ keys)

theorem kerase_eq_filter {k : κ} {l : List (Sigma fun _ : κ => ν)} (h : l.NodupKeys) :
    l.kerase k = l.filter fun e => decide (e.1 ≠ k) := by
  induction l with
  | nil => rfl
  | cons e l ih =>
    obtain ⟨hnew, hrest⟩ := List.nodupKeys_cons.mp h
    -- The key may be the head's own, or occur further down; not both, keys are unique.
    by_cases hk : k = e.1
    · have hfilter : l.filter (fun e => decide (e.1 ≠ k)) = l := by
        rw [List.filter_eq_self]
        intro e' he'
        have hmem : e'.1 ∈ l.keys := List.mem_map_of_mem he'
        rw [decide_eq_true_eq]
        intro heq
        exact hnew (hk ▸ heq ▸ hmem)
      rw [List.kerase_cons_eq hk, List.filter_cons_of_neg (by simp [hk]), hfilter]
    · rw [List.kerase_cons_ne hk, List.filter_cons_of_pos (by simpa using Ne.symm hk), ih hrest]

/-- What an edit overwrites does not matter once its key is left out. -/
theorem Edit.apply_without (e : Edit κ ν) (keys : List κ) (d : Dict κ ν) :
    (e.apply d).without keys = (e.apply (d.without (e.key :: keys))).without keys := by
  have hrest : ∀ k : κ, (d.entries.kerase k).filter (fun e => decide (e.1 ∉ keys)) =
      ((d.without (k :: keys)).entries.kerase k).filter (fun e => decide (e.1 ∉ keys)) := by
    intro k
    rw [kerase_eq_filter d.nodupKeys, kerase_eq_filter (d.without (k :: keys)).nodupKeys]
    show _ = List.filter _ (List.filter _ (List.filter _ d.entries))
    rw [List.filter_filter, List.filter_filter, List.filter_filter]
    refine List.filter_congr fun e _ => ?_
    -- An entry is kept on both sides unless its key is edited or left out.
    by_cases hk : e.1 = k <;> by_cases hmem : e.1 ∈ keys <;> simp [hk, hmem]
  apply AList.ext
  cases e with
  | put k v =>
    show List.filter (fun e => decide (e.1 ∉ keys)) (List.kinsert k v d.entries) =
      List.filter (fun e => decide (e.1 ∉ keys)) (List.kinsert k v (d.without (k :: keys)).entries)
    rw [List.kinsert_def, List.kinsert_def, List.filter_cons, List.filter_cons, hrest]
  | del k => exact hrest k

/-- **Edits** depend on the entries under other keys only. -/
theorem foldl_apply_without (edits : List (Edit κ ν)) (d : Dict κ ν) :
    edits.foldl Edit.apply d = edits.foldl Edit.apply (d.without (edits.map Edit.key)) := by
  induction edits generalizing d with
  | nil =>
    apply AList.ext
    exact (List.filter_eq_self.mpr fun _ _ => rfl).symm
  | cons e edits ih =>
    rw [List.foldl_cons, ih, Edit.apply_without, ← ih]
    rfl

/-- An edit leaves the entries under other keys alone. -/
theorem Edit.without_apply {e : Edit κ ν} {keys : List κ} (h : e.key ∈ keys) (d : Dict κ ν) :
    (e.apply d).without keys = d.without keys := by
  have hrest : ∀ k ∈ keys, (d.entries.kerase k).filter (fun e => decide (e.1 ∉ keys)) =
      d.entries.filter fun e => decide (e.1 ∉ keys) := by
    intro k hk
    rw [kerase_eq_filter d.nodupKeys, List.filter_filter]
    refine List.filter_congr fun e _ => ?_
    by_cases hkey : e.1 = k
    · simp [hkey, hk]
    · simp [hkey]
  apply AList.ext
  cases e with
  | put k v =>
    have hk : k ∈ keys := h
    show List.filter (fun e => decide (e.1 ∉ keys)) (List.kinsert k v d.entries) = _
    rw [List.kinsert_def, List.filter_cons_of_neg (by simpa using hk)]
    exact hrest k hk
  | del k => exact hrest k h

theorem foldl_without_apply {edits : List (Edit κ ν)} {keys : List κ}
    (h : ∀ e ∈ edits, e.key ∈ keys) (d : Dict κ ν) :
    (edits.foldl Edit.apply d).without keys = d.without keys := by
  induction edits generalizing d with
  | nil => rfl
  | cons e edits ih =>
    rw [List.foldl_cons, ih fun e' he' => h e' (List.mem_cons_of_mem _ he'),
      Edit.without_apply (h e (List.mem_cons_self ..))]

/-- **A dictionary** that a log of edits was played into is left as it is by the log. -/
theorem settled_edits (edits : List (Edit κ ν)) (d : Dict κ ν) :
    Settled Edit.apply edits (edits.foldl Edit.apply d) := by
  unfold Settled
  rw [foldl_apply_without, foldl_without_apply fun e he => List.mem_map_of_mem he,
    ← foldl_apply_without]

/-- What an edit writes under a key: a value, or that there is none. -/
def Edit.writes (k : κ) : Edit κ ν → Option (Option ν)
  | put k' v => if k' = k then some (some v) else none
  | del k' => if k' = k then some none else none

/-- **A key** of a dictionary is a register. -/
theorem lookup_foldl_apply (k : κ) (edits : List (Edit κ ν)) (d : Dict κ ν) :
    (edits.foldl Edit.apply d).lookup k = (lastWrite (Edit.writes k) edits).getD (d.lookup k) := by
  rw [← foldl_write]
  induction edits generalizing d with
  | nil => rfl
  | cons e edits ih =>
    rw [List.foldl_cons, List.foldl_cons, ih]
    congr 1
    unfold write Edit.writes Edit.apply
    cases e with
    | put k' v =>
      by_cases hk : k' = k
      · simp [hk]
      · simp [hk, AList.lookup_insert_ne (Ne.symm hk)]
    | del k' =>
      by_cases hk : k' = k
      · simp [hk]
      · simp [hk, AList.lookup_erase_ne (Ne.symm hk)]

end Dictionaries

/-! ## Resets -/

theorem foldl_eq_of_reset {act : σ → ω → σ} {log : List ω} {op : ω} (hmem : op ∈ log)
    (hreset : ∀ s s', act s op = act s' op) (s s' : σ) : log.foldl act s = log.foldl act s' := by
  obtain ⟨before, after, rfl⟩ := List.append_of_mem hmem
  rw [List.foldl_append, List.foldl_append, List.foldl_cons, List.foldl_cons,
    hreset (before.foldl act s) (before.foldl act s')]

/-- **Resets.** A log with an operation that leaves no trace of what was there before
makes the same state from every start, and settles no other. -/
theorem settled_iff_of_reset {act : σ → ω → σ} {log : List ω} {op : ω} (hmem : op ∈ log)
    (hreset : ∀ s s', act s op = act s' op) (start s : σ) :
    Settled act log s ↔ s = log.foldl act start := by
  unfold Settled
  rw [foldl_eq_of_reset hmem hreset s start]
  exact eq_comm

/-- A log whose operations leave the state alone or empty it leaves it alone or empties it. -/
theorem foldl_eq_or_empty {act : σ → ω → σ} {log : List ω} {empty : σ}
    (h : ∀ op ∈ log, ∀ s, act s op = s ∨ act s op = empty) (s : σ) :
    log.foldl act s = s ∨ log.foldl act s = empty := by
  induction log generalizing s with
  | nil => exact .inl rfl
  | cons op log ih =>
    have hrest := ih fun op' hmem => h op' (List.mem_cons_of_mem _ hmem)
    rw [List.foldl_cons]
    rcases h op (List.mem_cons_self ..) s with hop | hop
    · rw [hop]
      exact hrest s
    · rw [hop]
      exact .inr ((hrest empty).elim id id)

/-- **Resets and clears.** A state that a log was played into is left as it is by the log, when
each operation leaves no trace of what was there before, or leaves it alone or empties it. -/
theorem settled_of_reset_or_clear {act : σ → ω → σ} {log : List ω} {empty : σ}
    (h : ∀ op ∈ log, (∀ s s', act s op = act s' op) ∨ ∀ s, act s op = s ∨ act s op = empty)
    (s : σ) : Settled act log (log.foldl act s) := by
  by_cases hreset : ∃ op ∈ log, ∀ s s', act s op = act s' op
  · obtain ⟨op, hmem, hop⟩ := hreset
    exact (settled_iff_of_reset hmem hop s _).mpr rfl
  · have hclear : ∀ op ∈ log, ∀ s, act s op = s ∨ act s op = empty := fun op hmem =>
      (h op hmem).resolve_left fun hop => hreset ⟨op, hmem, hop⟩
    unfold Settled
    rcases foldl_eq_or_empty hclear s with hs | hs
    · rw [hs, hs]
    · rw [hs]
      exact (foldl_eq_or_empty hclear empty).elim id id

end CodexAcp.Lib
