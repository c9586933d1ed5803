import AgentCore.Foundation.JsonParse

/-! Texts made of fields with a separator, and decimal texts. -/

namespace AgentCore.Foundation

open List String

/-- Fields with equally many separators, in front of one, can be read off. -/
lemma list_field_inj {α : Type*} [DecidableEq α] {c : α} {as bs xs ys : List α}
    (hcount : as.count c = bs.count c) (h : as ++ c :: xs = bs ++ c :: ys) : as = bs ∧ xs = ys := by
  induction as generalizing bs with
  | nil =>
    cases bs with
    | nil => exact ⟨rfl, (cons.inj h).2⟩
    | cons b bs =>
      obtain rfl : c = b := (cons.inj h).1
      simp at hcount
  | cons a as ih =>
    cases bs with
    | nil =>
      obtain rfl : a = c := (cons.inj h).1
      simp at hcount
    | cons b bs =>
      obtain ⟨rfl, htail⟩ := cons.inj h
      rw [count_cons, count_cons] at hcount
      obtain ⟨rfl, hxs⟩ := ih (Nat.add_right_cancel hcount) htail
      exact ⟨rfl, hxs⟩

lemma field_inj {a b x y : String} (ha : c ∉ a.toList) (hb : c ∉ b.toList)
    (h : a ++ (singleton c ++ x) = b ++ (singleton c ++ y)) : a = b ∧ x = y := by
  have hlist := congrArg toList h
  simp only [toList_append, toList_singleton, cons_append,
    nil_append] at hlist
  have hcount : a.toList.count c = b.toList.count c := by
    rw [count_eq_zero.mpr ha, count_eq_zero.mpr hb]
  obtain ⟨hfst, hsnd⟩ := list_field_inj hcount hlist
  exact ⟨toList_inj.mp hfst, toList_inj.mp hsnd⟩

lemma toList_toString_int (z : Int) : (toString z).toList =
      if 0 ≤ z then Nat.toDigits 10 z.natAbs else '-' :: Nat.toDigits 10 z.natAbs := by
  cases z with
  | ofNat n =>
    have hn : 0 ≤ Int.ofNat n := Int.natCast_nonneg n
    rw [if_pos hn]
    exact Nat.toList_repr
  | negSucc n =>
    rw [if_neg (by omega)]
    have htext : (toString (Int.negSucc n)).toList = '-' :: (Nat.repr (n + 1)).toList :=
      toList_append
    rw [htext, Nat.toList_repr]
    rfl

lemma notMem_toDigits (hc : c.isDigit = false) (n : Nat) : c ∉ Nat.toDigits 10 n := by
  intro hmem
  rw [Json.isDigit_of_mem_toDigits hmem] at hc
  cases hc

lemma notMem_toString_int (hc : c.isDigit = false) (hminus : c ≠ '-') (z : Int) :
    c ∉ (toString z).toList := by
  rw [toList_toString_int]
  split_ifs
  · exact notMem_toDigits hc _
  · rw [mem_cons, not_or]
    exact ⟨hminus, notMem_toDigits hc _⟩

lemma toDigits_injective : Function.Injective (Nat.toDigits 10) := by
  intro m n h
  rw [← Nat.ofDigitChars_ten_toDigits (n := m), h, Nat.ofDigitChars_ten_toDigits]

lemma toString_int_injective : Function.Injective (toString : Int → String) := by
  intro a b h
  have hlist := congrArg toList h
  simp only [toList_toString_int] at hlist
  split_ifs at hlist with ha hb hb
  · have := toDigits_injective hlist
    omega
  · exact absurd (hlist ▸ mem_cons_self) (notMem_toDigits (by decide) a.natAbs)
  · exact absurd (hlist ▸ mem_cons_self) (notMem_toDigits (by decide) b.natAbs)
  · have := toDigits_injective (cons.inj hlist).2
    omega

end AgentCore.Foundation
