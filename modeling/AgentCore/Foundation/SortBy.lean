import Mathlib.Data.List.Sort

/-! Stable sorting by a key, and what it keeps. -/

namespace AgentCore.Foundation

open List

variable {α β κ : Type} [LinearOrder κ] {key : α → κ} {l : List α}

def sortBy (key : α → κ) (l : List α) : List α := l.insertionSort fun a b => key a ≤ key b

instance totalBy (key : α → κ) : Std.Total fun a b : α => key a ≤ key b := ⟨fun a b => le_total (key a) (key b)⟩

instance transBy (key : α → κ) : IsTrans α fun a b : α => key a ≤ key b := ⟨fun _ _ _ => le_trans⟩

lemma pairwise_sortBy (key : α → κ) (l : List α) :
    (sortBy key l).Pairwise fun a b => key a ≤ key b := pairwise_insertionSort _ l

lemma sortBy_eq_self (h : l.Pairwise fun a b => key a ≤ key b) :
    sortBy key l = l := h.insertionSort_eq

@[simp] lemma sortBy_sortBy (key : α → κ) (l : List α) : sortBy key (sortBy key l) = sortBy key l :=
  sortBy_eq_self (pairwise_sortBy key l)

lemma perm_sortBy (key : α → κ) (l : List α) : (sortBy key l).Perm l := perm_insertionSort _ l

@[simp] lemma mem_sortBy : a ∈ sortBy key l ↔ a ∈ l := mem_insertionSort _

@[simp] lemma length_sortBy (key : α → κ) (l : List α) : (sortBy key l).length = l.length :=
  length_insertionSort _ l

lemma map_sortBy (f : β → α) (key : α → κ) (l : List β) :
    (sortBy (fun b => key (f b)) l).map f = sortBy key (l.map f) :=
  map_insertionSort _ _ f l fun _ _ _ _ => Iff.rfl

/-- With one element for each key, the order before the sorting does not matter. -/
lemma sortBy_congr (hperm : l.Perm l') (hkeys : (l.map key).Nodup) :
    sortBy key l = sortBy key l' := by
  refine List.Perm.eq_of_pairwise (fun a b ha hb hab hba => ?_) (pairwise_sortBy key l)
    (pairwise_sortBy key l') (((perm_sortBy key l).trans hperm).trans (perm_sortBy key l').symm)
  exact inj_on_of_nodup_map hkeys (mem_sortBy.mp ha) (hperm.mem_iff.mpr (mem_sortBy.mp hb))
    (le_antisymm hab hba)

lemma sortBy_map_sortBy (h : ∀ a, keyRow (row a) = key a)
    (l : List α) : sortBy keyRow ((sortBy key l).map row) = (sortBy key l).map row := by
  apply sortBy_eq_self
  rw [pairwise_map]
  exact (pairwise_sortBy key l).imp fun hab => by rw [h, h]; exact hab

end AgentCore.Foundation
