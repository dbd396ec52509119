import Mathlib.Data.List.Lex
import Mathlib.Data.List.Sort

/-!
# Sorting by a key

A list sorted by the keys of its items, which keeps the order of items with one
key. What a component shows sorted does not depend on the order it comes in:

> `sortOn_eq_of_perm`: lists with the same items sort to the same list, if the
> items have distinct keys.

Nothing here mentions a particular system.
-/

namespace CodexAcp.Lib

variable {α : Type u} {β : Type v} [LinearOrder β] (key : α → β)

/-- The items in the order of their keys. -/
def sortOn (items : List α) : List α := items.mergeSort fun a b => decide (key a ≤ key b)

theorem sortOn_perm (items : List α) : (sortOn key items).Perm items :=
  List.mergeSort_perm items _

theorem mem_sortOn {items : List α} {a : α} : a ∈ sortOn key items ↔ a ∈ items :=
  (sortOn_perm key items).mem_iff

theorem sortOn_sorted (items : List α) :
    (sortOn key items).Pairwise fun a b => key a ≤ key b := by
  have hsorted := @List.pairwise_mergeSort _ (fun a b => decide (key a ≤ key b))
    (fun a b c hab hbc => by
      rw [decide_eq_true_eq] at hab hbc ⊢
      exact le_trans hab hbc)
    (fun a b => by
      rw [Bool.or_eq_true, decide_eq_true_eq, decide_eq_true_eq]
      exact le_total (key a) (key b))
    items
  exact hsorted.imp fun h => of_decide_eq_true h

/-- **The order it comes in** does not matter. -/
theorem sortOn_eq_of_perm {items items' : List α} (h : items.Perm items')
    (hkeys : (items.map key).Nodup) : sortOn key items = sortOn key items' := by
  refine List.Perm.eq_of_pairwise (fun a b ha hb hab hba => ?_) (sortOn_sorted key items)
    (sortOn_sorted key items') ((sortOn_perm key items).trans (h.trans (sortOn_perm key _).symm))
  exact List.inj_on_of_nodup_map hkeys ((mem_sortOn key).mp ha)
    (h.mem_iff.mpr ((mem_sortOn key).mp hb)) (le_antisymm hab hba)

/-- Nor of items that are their own keys, distinct or not. -/
theorem sortOn_id_eq_of_perm {items items' : List β} (h : items.Perm items') :
    sortOn id items = sortOn id items' :=
  List.Perm.eq_of_pairwise (fun _ _ _ _ hab hba => le_antisymm hab hba) (sortOn_sorted id items)
    (sortOn_sorted id items') ((sortOn_perm id items).trans (h.trans (sortOn_perm id _).symm))

end CodexAcp.Lib
