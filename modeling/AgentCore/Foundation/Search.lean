import Mathlib.Data.List.Infix

/-! The first place at which a pattern occurs in a list. -/

namespace AgentCore.Foundation

open List

variable {α : Type*} [DecidableEq α] {pat l : List α}

def firstIndex? (pat : List α) : List α → Option Nat
  | [] => if pat = [] then some 0 else none
  | a :: l => if pat <+: a :: l then some 0 else (firstIndex? pat l).map (· + 1)

lemma firstIndex?_of_isHere (h : pat <+: l) : firstIndex? pat l = some 0 := by
  cases l with
  | nil => exact if_pos (prefix_nil.mp h)
  | cons a l => exact if_pos h

lemma firstIndex?_cons (h : ¬ pat <+: a :: l) :
    firstIndex? pat (a :: l) = (firstIndex? pat l).map (· + 1) := if_neg h

lemma length_of_firstIndex? (h : firstIndex? pat l = some i) : i + pat.length ≤ l.length := by
  induction l generalizing i with
  | nil =>
    unfold firstIndex? at h
    split at h
    · next hnil =>
      cases h
      simp [hnil]
    · cases h
  | cons a l ih =>
    by_cases hhere : pat <+: a :: l
    · rw [firstIndex?_of_isHere hhere] at h
      cases h
      simpa using hhere.length_le
    · rw [firstIndex?_cons hhere] at h
      obtain ⟨j, hj, rfl⟩ := Option.map_eq_some_iff.mp h
      have hlen := ih hj
      simp only [length_cons]
      omega

lemma firstIndex?_append (h : firstIndex? pat l = some i)
    (m : List α) : firstIndex? pat (l ++ m) = some i := by
  induction l generalizing i with
  | nil =>
    unfold firstIndex? at h
    split at h
    · next hnil =>
      cases h
      exact firstIndex?_of_isHere (hnil ▸ nil_prefix)
    · cases h
  | cons a l ih =>
    by_cases hhere : pat <+: a :: l
    · rw [firstIndex?_of_isHere hhere] at h
      rw [firstIndex?_of_isHere (hhere.trans (prefix_append _ _)), h]
    · rw [firstIndex?_cons hhere] at h
      obtain ⟨j, hj, rfl⟩ := Option.map_eq_some_iff.mp h
      have hlen := length_of_firstIndex? hj
      have hhere' : ¬ pat <+: a :: (l ++ m) := by
        intro hpat
        have htake := prefix_of_prefix_length_le hpat (prefix_append (a :: l) m)
          (by simp only [length_cons]; omega)
        exact hhere htake
      rw [cons_append, firstIndex?_cons hhere', ih hj]
      rfl

lemma firstIndex?_take (h : firstIndex? pat l = some i)
    (hn : i + pat.length ≤ n) : firstIndex? pat (l.take n) = some i := by
  induction l generalizing i n with
  | nil =>
    rw [take_nil]
    exact h
  | cons a l ih =>
    by_cases hhere : pat <+: a :: l
    · rw [firstIndex?_of_isHere hhere] at h
      cases h
      exact firstIndex?_of_isHere (prefix_take_iff.mpr ⟨hhere, by omega⟩)
    · rw [firstIndex?_cons hhere] at h
      obtain ⟨j, hj, rfl⟩ := Option.map_eq_some_iff.mp h
      obtain ⟨n, rfl⟩ : ∃ m, n = m + 1 := ⟨n - 1, by omega⟩
      have hhere' : ¬ pat <+: a :: l.take n := fun hpat =>
        hhere (hpat.trans (List.take_prefix (n + 1) (a :: l)))
      rw [take_succ_cons, firstIndex?_cons hhere', ih hj (by omega)]
      rfl

end AgentCore.Foundation
