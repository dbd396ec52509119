import Mathlib.Data.List.AList
import Mathlib.Data.List.Induction

/-!
# Dictionaries

A dictionary is an association list whose keys are pairwise distinct, so an
entry is found by its key and the entries can be listed. Mathlib's `AList`
carries the distinctness as a field and has `lookup`, `insert` and `erase`;
this file adds the bulk operations a hash map offers (`retain` keeps what a
predicate accepts, `mapValues` updates every value in place, `set` replaces one
value in place, `collect` builds a dictionary from a list in which a later pair
wins) and says of each operation what a lookup finds afterwards:

> `lookup_insert_eq_some`, `lookup_erase_eq_some`, `lookup_retain_eq_some`,
> `lookup_mapValues`, `lookup_set_eq_some`, `lookup_collect_eq_some`.

What the values are, counted, after an insertion and an erasure:

> `values_insert`, `perm_values_erase`.

And what a list of pairs put into a dictionary one after the other amounts to:

> `length_insertAll_iff`: it gets an entry for each pair exactly if no pair has the
> key of another one or of an entry.
-/

namespace CodexAcp.Lib

/-- A finite map from keys to values. -/
abbrev Dict (κ : Type u) (ν : Type v) := AList (fun _ : κ => ν)

namespace Dict

variable {κ : Type u} {ν : Type v} {ω : Type v}

/-- The values, in the order of the entries. -/
def values (d : Dict κ ν) : List ν := d.entries.map (·.2)

/-- Keep the entries `keep` accepts. -/
def retain (keep : κ → ν → Bool) (d : Dict κ ν) : Dict κ ν where
  entries := d.entries.filter fun e => keep e.1 e.2
  nodupKeys := d.nodupKeys.sublist List.filter_sublist

private theorem keys_map (f : κ → ν → ω) (l : List (Sigma fun _ : κ => ν)) :
    (l.map fun e => (⟨e.1, f e.1 e.2⟩ : Sigma fun _ : κ => ω)).keys = l.keys := by
  simp [List.keys]

/-- Update every value in place. -/
def mapValues (f : κ → ν → ω) (d : Dict κ ν) : Dict κ ω where
  entries := d.entries.map fun e => ⟨e.1, f e.1 e.2⟩
  nodupKeys := by
    show (List.keys _).Nodup
    rw [keys_map]
    exact d.nodupKeys

theorem mapValues_mapValues {ξ : Type v} (f : κ → ω → ξ) (g : κ → ν → ω) (d : Dict κ ν) :
    (d.mapValues g).mapValues f = d.mapValues fun k v => f k (g k v) :=
  AList.ext List.map_map

theorem values_mapValues (f : ν → ω) (d : Dict κ ν) :
    (d.mapValues fun _ v => f v).values = d.values.map f := by
  unfold values mapValues
  rw [List.map_map, List.map_map]
  rfl

variable [DecidableEq κ]

/-- Replace the value under a key that has one; without one, nothing changes. -/
def set (k : κ) (v : ν) (d : Dict κ ν) : Dict κ ν :=
  d.mapValues fun k' v' => if k' = k then v else v'

/-- The dictionary of a list of pairs: a later pair replaces an earlier one. -/
def collect (l : List (κ × ν)) : Dict κ ν :=
  l.foldl (fun d e => d.insert e.1 e.2) ∅

/-! ## Lookups -/

/-- An entry after an insertion is the new one or an old one under another key. -/
theorem lookup_insert_eq_some {d : Dict κ ν} {k k' : κ} {v v' : ν} :
    AList.lookup k' (d.insert k v) = some v' ↔
      (k' = k ∧ v = v') ∨ (k' ≠ k ∧ d.lookup k' = some v') := by
  by_cases h : k' = k
  · subst h
    simp [AList.lookup_insert]
  · simp [AList.lookup_insert_ne h, h]

/-- An entry after an erasure was there before, under another key. -/
theorem lookup_erase_eq_some {d : Dict κ ν} {k k' : κ} {v' : ν} :
    AList.lookup k' (d.erase k) = some v' ↔ k' ≠ k ∧ d.lookup k' = some v' := by
  by_cases h : k' = k
  · subst h
    simp
  · simp [AList.lookup_erase_ne h, h]

/-- An entry of a retained dictionary is an accepted entry of the old one. -/
theorem lookup_retain_eq_some {keep : κ → ν → Bool} {d : Dict κ ν} {k : κ} {v : ν} :
    (d.retain keep).lookup k = some v ↔ d.lookup k = some v ∧ keep k v = true := by
  have hl := AList.mem_lookup_iff (a := k) (b := v) (s := d)
  have hr := AList.mem_lookup_iff (a := k) (b := v) (s := d.retain keep)
  rw [Option.mem_def] at hl hr
  rw [hl, hr]
  simp [retain, List.mem_filter]

/-- What an update in place finds under a key is the update of what was there. -/
theorem lookup_mapValues (f : κ → ν → ω) (d : Dict κ ν) (k : κ) :
    (d.mapValues f).lookup k = (d.lookup k).map (f k) := by
  cases h : d.lookup k with
  | none =>
    rw [AList.lookup_eq_none] at h
    rw [Option.map_none, AList.lookup_eq_none]
    intro hk
    apply h
    rw [AList.mem_keys, AList.keys] at hk ⊢
    rwa [mapValues, keys_map] at hk
  | some v =>
    have hm := AList.mem_lookup_iff.mp h
    exact AList.mem_lookup_iff.mpr (List.mem_map.mpr ⟨⟨k, v⟩, hm, rfl⟩)

private theorem kerase_map (f : κ → ν → ω) (k : κ) (l : List (Sigma fun _ : κ => ν)) :
    List.kerase k (l.map fun e => (⟨e.1, f e.1 e.2⟩ : Sigma fun _ : κ => ω)) =
      (List.kerase k l).map fun e => ⟨e.1, f e.1 e.2⟩ := by
  induction l with
  | nil => rfl
  | cons e l ih =>
    by_cases hk : k = e.1
    · rw [List.kerase_cons_eq hk]
      exact List.kerase_cons_eq hk
    · rw [List.kerase_cons_ne hk, List.map_cons, List.map_cons, ← ih]
      exact List.kerase_cons_ne hk

/-- An update in place goes through an erasure and an insertion. -/
theorem mapValues_erase (f : κ → ν → ω) (d : Dict κ ν) (k : κ) :
    mapValues f (d.erase k) = (d.mapValues f).erase k :=
  AList.ext (kerase_map f k d.entries).symm

theorem mapValues_insert (f : κ → ν → ω) (d : Dict κ ν) (k : κ) (v : ν) :
    mapValues f (d.insert k v) = (d.mapValues f).insert k (f k v) :=
  AList.ext (congrArg ((⟨k, f k v⟩ : Sigma fun _ : κ => ω) :: ·) (kerase_map f k d.entries).symm)

theorem lookup_set_self {d : Dict κ ν} {k : κ} {v v' : ν} (h : d.lookup k = some v') :
    (d.set k v).lookup k = some v := by
  rw [set, lookup_mapValues, h]
  simp

theorem lookup_set_of_ne {k k' : κ} (h : k' ≠ k) (d : Dict κ ν) (v : ν) :
    (d.set k v).lookup k' = d.lookup k' := by
  rw [set, lookup_mapValues]
  cases d.lookup k' <;> simp [h]

/-- An entry after a replacement is the new one or an old one under another key. -/
theorem lookup_set_eq_some {d : Dict κ ν} {k k' : κ} {v v' : ν}
    (h : (d.set k v).lookup k' = some v') :
    (k' = k ∧ v = v') ∨ (k' ≠ k ∧ d.lookup k' = some v') := by
  by_cases hk : k' = k
  · subst hk
    rw [set, lookup_mapValues] at h
    obtain ⟨w, _, hw⟩ := Option.map_eq_some_iff.mp h
    rw [if_pos rfl] at hw
    exact Or.inl ⟨rfl, hw⟩
  · rw [lookup_set_of_ne hk] at h
    exact Or.inr ⟨hk, h⟩

/-- Replacing a value by itself changes nothing. -/
theorem set_self {d : Dict κ ν} {k : κ} {v : ν} (h : d.lookup k = some v) : d.set k v = d := by
  apply AList.ext
  show d.entries.map _ = d.entries
  refine (List.map_congr_left fun e he => ?_).trans (List.map_id _)
  obtain ⟨k', v'⟩ := e
  show (⟨k', if k' = k then v else v'⟩ : Sigma fun _ : κ => ν) = ⟨k', v'⟩
  split
  next hk =>
    subst hk
    have hv : d.lookup k' = some v' := AList.mem_lookup_iff.mpr he
    rw [h] at hv
    cases hv
    rfl
  next => rfl

/-- The values are the ones some key finds. -/
theorem mem_values {d : Dict κ ν} {v : ν} : v ∈ d.values ↔ ∃ k, d.lookup k = some v := by
  constructor
  · intro h
    obtain ⟨e, he, rfl⟩ := List.mem_map.mp h
    exact ⟨e.1, AList.mem_lookup_iff.mpr he⟩
  · rintro ⟨k, h⟩
    exact List.mem_map.mpr ⟨⟨k, v⟩, AList.mem_lookup_iff.mp h, rfl⟩

/-- The values are what the keys find, in the order of any list that has all keys once. -/
theorem values_perm_filterMap {d : Dict κ ν} {keys : List κ} (hnodup : keys.Nodup)
    (hcovers : ∀ k v, d.lookup k = some v → k ∈ keys) :
    d.values.Perm (keys.filterMap d.lookup) := by
  have hlookup : ∀ e ∈ d.entries, d.lookup e.1 = some e.2 := fun e he => AList.mem_lookup_iff.mpr he
  have hvalues : d.values = (d.entries.map (·.1)).filterMap d.lookup := by
    rw [List.filterMap_map]
    unfold values
    rw [← List.filterMap_eq_map]
    exact List.filterMap_congr fun e he => (hlookup e he).symm
  have hfound : keys.filterMap d.lookup =
      (keys.filter fun k => (d.lookup k).isSome).filterMap d.lookup := by
    rw [List.filterMap_filter]
    refine List.filterMap_congr fun k _ => ?_
    cases d.lookup k <;> rfl
  rw [hvalues, hfound]
  refine List.Perm.filterMap _ ((List.perm_ext_iff_of_nodup d.nodupKeys (hnodup.filter _)).mpr
    fun k => ?_)
  have hkey : k ∈ d.entries.keys ↔ (d.lookup k).isSome = true :=
    AList.mem_keys.symm.trans AList.lookup_isSome.symm
  rw [List.mem_filter, hkey]
  refine ⟨fun h => ⟨?_, h⟩, fun h => h.2⟩
  obtain ⟨v, hv⟩ := Option.isSome_iff_exists.mp h
  exact hcovers k v hv

/-- The value under a key and the values under the others. -/
theorem perm_values_erase {d : Dict κ ν} {k : κ} {v : ν} (h : d.lookup k = some v) :
    (values d).Perm (v :: values (d.erase k)) := by
  have hkey : k ∈ d.entries.keys := AList.mem_keys.mp (AList.lookup_isSome.mp (by rw [h]; rfl))
  obtain ⟨w, l₁, l₂, _, hentries, herase⟩ := List.exists_of_kerase hkey
  have hw : d.lookup k = some w := AList.mem_lookup_iff.mpr (by
    show (⟨k, w⟩ : Sigma fun _ : κ => ν) ∈ d.entries
    rw [hentries]
    exact List.mem_append_right _ (List.mem_cons_self ..))
  rw [h] at hw
  cases hw
  show (d.entries.map (·.2)).Perm (v :: (List.kerase k d.entries).map (·.2))
  rw [herase, hentries, List.map_append, List.map_cons, List.map_append]
  exact List.perm_middle

/-- The values after an insertion under a new key. -/
theorem values_insert {d : Dict κ ν} {k : κ} (h : d.lookup k = none) (v : ν) :
    values (d.insert k v) = v :: values d := by
  show (List.kinsert k v d.entries).map (·.2) = _
  rw [List.kinsert_def, List.kerase_of_notMem_keys (fun hk => ?_)]
  · rfl
  · rw [AList.lookup_eq_none] at h
    exact h hk

/-- The values after a replacement. -/
theorem values_insert_of_some (d : Dict κ ν) (k : κ) (v : ν) :
    values (d.insert k v) = v :: values (d.erase k) := rfl

theorem collect_concat (l : List (κ × ν)) (e : κ × ν) :
    collect (l ++ [e]) = (collect l).insert e.1 e.2 := by
  unfold collect
  rw [List.foldl_append, List.foldl_cons, List.foldl_nil]

/-- What a collected dictionary finds is what the last pair with the key holds. -/
theorem lookup_collect_eq_some {l : List (κ × ν)} {k : κ} {v : ν} :
    (collect l).lookup k = some v ↔
      ∃ before after, l = before ++ (k, v) :: after ∧ ∀ e ∈ after, e.1 ≠ k := by
  induction l using List.reverseRecOn with
  | nil =>
    constructor
    · intro h
      cases h
    · rintro ⟨before, after, h, _⟩
      exact absurd h.symm (by simp)
  | append_singleton l e ih =>
    rw [collect_concat, lookup_insert_eq_some, ih]
    constructor
    · rintro (⟨rfl, rfl⟩ | ⟨hk, before, after, rfl, hafter⟩)
      · exact ⟨l, [], rfl, List.forall_mem_nil _⟩
      · refine ⟨before, after ++ [e], by simp, ?_⟩
        rw [List.forall_mem_append]
        exact ⟨hafter, List.forall_mem_singleton.mpr (Ne.symm hk)⟩
    · rintro ⟨before, after, h, hafter⟩
      rcases List.eq_nil_or_concat after with rfl | ⟨after', e', rfl⟩
      · -- the pair is the last one
        obtain ⟨_, he⟩ := List.append_inj' h rfl
        cases he
        exact Or.inl ⟨rfl, rfl⟩
      · rw [List.concat_eq_append] at h hafter
        rw [← List.cons_append, ← List.append_assoc] at h
        obtain ⟨hl, he⟩ := List.append_inj' h rfl
        cases he
        rw [List.forall_mem_append] at hafter
        exact Or.inr ⟨Ne.symm (hafter.2 e (List.mem_singleton_self _)), before, after', hl,
          hafter.1⟩

/-- Pairs with distinct keys are all kept. -/
theorem length_collect {l : List (κ × ν)} (h : (l.map (·.1)).Nodup) :
    (collect l).entries.length = l.length := by
  induction l using List.reverseRecOn with
  | nil => rfl
  | append_singleton l e ih =>
    rw [List.map_append, List.nodup_append] at h
    obtain ⟨hl, _, hnew⟩ := h
    have hkey : e.1 ∉ collect l := by
      intro hmem
      obtain ⟨v, hv⟩ := Option.isSome_iff_exists.mp (AList.lookup_isSome.mpr hmem)
      obtain ⟨before, after, rfl, _⟩ := lookup_collect_eq_some.mp hv
      refine hnew e.1 ?_ e.1 (List.mem_singleton_self _) rfl
      rw [List.map_append]
      exact List.mem_append_right _ (List.mem_cons_self ..)
    rw [collect_concat, AList.entries_insert_of_notMem hkey, List.length_cons, ih hl,
      List.length_append, List.length_singleton]

/-- A collected dictionary has no entry under a key none of the pairs has. -/
theorem lookup_collect_eq_none {l : List (κ × ν)} {k : κ} :
    (collect l).lookup k = none ↔ ∀ e ∈ l, e.1 ≠ k := by
  induction l using List.reverseRecOn with
  | nil => exact ⟨fun _ => List.forall_mem_nil _, fun _ => rfl⟩
  | append_singleton l e ih =>
    rw [collect_concat, List.forall_mem_append, List.forall_mem_singleton, ← ih]
    by_cases hk : k = e.1
    · subst hk
      simp [AList.lookup_insert]
    · rw [AList.lookup_insert_ne hk]
      exact ⟨fun h => ⟨h, Ne.symm hk⟩, And.left⟩

/-- What a collected dictionary holds is one of the list's pairs. -/
theorem mem_of_lookup_collect {l : List (κ × ν)} {k : κ} {v : ν}
    (h : (collect l).lookup k = some v) : (k, v) ∈ l := by
  obtain ⟨before, after, rfl, _⟩ := lookup_collect_eq_some.mp h
  exact List.mem_append_right _ (List.mem_cons_self ..)

/-! ## Lists of pairs -/

/-- Put pairs into a dictionary, one after the other. -/
def insertAll (l : List (κ × ν)) (d : Dict κ ν) : Dict κ ν :=
  l.foldl (fun d e => d.insert e.1 e.2) d

theorem insertAll_append (l l' : List (κ × ν)) (d : Dict κ ν) :
    insertAll (l ++ l') d = insertAll l' (insertAll l d) := List.foldl_append

/-- What is there under a key that no pair has. -/
theorem lookup_insertAll_of_notMem {l : List (κ × ν)} {k : κ} (h : k ∉ l.map (·.1))
    (d : Dict κ ν) : (insertAll l d).lookup k = d.lookup k := by
  induction l generalizing d with
  | nil => rfl
  | cons e l ih =>
    rw [List.map_cons, List.mem_cons, not_or] at h
    show (insertAll l (d.insert e.1 e.2)).lookup k = _
    rw [ih h.2, AList.lookup_insert_ne h.1]

/-- Of pairs with distinct keys, each is there. -/
theorem lookup_insertAll_of_mem {l : List (κ × ν)} (h : (l.map (·.1)).Nodup) {e : κ × ν}
    (he : e ∈ l) (d : Dict κ ν) : (insertAll l d).lookup e.1 = some e.2 := by
  induction l generalizing d with
  | nil => cases he
  | cons e' l ih =>
    rw [List.map_cons, List.nodup_cons] at h
    rcases List.mem_cons.mp he with rfl | he
    · show (insertAll l (d.insert e.1 e.2)).lookup e.1 = _
      rw [lookup_insertAll_of_notMem h.1, AList.lookup_insert]
    · exact ih h.2 he _

theorem length_insert (d : Dict κ ν) (k : κ) (v : ν) :
    (d.insert k v).entries.length = d.entries.length + if k ∈ d then 0 else 1 := by
  split
  next h =>
    obtain ⟨v', hv'⟩ := Option.isSome_iff_exists.mp (AList.lookup_isSome.mpr h)
    have hlength := (perm_values_erase hv').length_eq
    simp only [values, List.length_map, List.length_cons] at hlength
    exact hlength.symm
  next h => rw [AList.entries_insert_of_notMem h, List.length_cons]

theorem length_insertAll_le (l : List (κ × ν)) (d : Dict κ ν) :
    (insertAll l d).entries.length ≤ d.entries.length + l.length := by
  induction l generalizing d with
  | nil => exact le_rfl
  | cons e l ih =>
    have hinsert : (d.insert e.1 e.2).entries.length ≤ d.entries.length + 1 := by
      rw [length_insert]
      split <;> omega
    have hrest : (insertAll (e :: l) d).entries.length ≤ _ := ih (d.insert e.1 e.2)
    rw [List.length_cons]
    omega

/-- **Pairs and entries.** Every pair makes an entry more exactly if the keys are new and
distinct. -/
theorem length_insertAll_iff {l : List (κ × ν)} {d : Dict κ ν} :
    (insertAll l d).entries.length = d.entries.length + l.length ↔
      (l.map (·.1)).Nodup ∧ ∀ e ∈ l, e.1 ∉ d := by
  induction l generalizing d with
  | nil => simp [insertAll]
  | cons e l ih =>
    have hle := length_insertAll_le l (d.insert e.1 e.2)
    have hinsert := length_insert d e.1 e.2
    have hrest : (insertAll l (d.insert e.1 e.2)).entries.length =
        (d.insert e.1 e.2).entries.length + l.length ↔ _ := ih
    show (insertAll l (d.insert e.1 e.2)).entries.length = _ ↔ _
    rw [List.map_cons, List.nodup_cons, List.forall_mem_cons, List.length_cons]
    by_cases he : e.1 ∈ d
    · rw [if_pos he] at hinsert
      refine ⟨fun h => ?_, fun h => absurd he h.2.1⟩
      omega
    · rw [if_neg he] at hinsert
      have hsum : d.entries.length + (l.length + 1) =
          (d.insert e.1 e.2).entries.length + l.length := by omega
      have hnew : (∀ e' ∈ l, e'.1 ∉ d.insert e.1 e.2) ↔
          e.1 ∉ l.map (·.1) ∧ ∀ e' ∈ l, e'.1 ∉ d := by
        simp only [AList.mem_insert, not_or, List.mem_map, not_exists, not_and]
        exact forall₂_and
      rw [hsum, hrest, hnew]
      tauto

end Dict

end CodexAcp.Lib
