import Mathlib.Algebra.Group.Nat.Defs
import Mathlib.Data.Nat.Find
import Mathlib.Data.List.Lex

/-! Numbers that are read from the left: as the bytes of a decimal text of a fixed width, and by their place in
a sequence. Where the first parts differ they decide, and else the rest does. -/

namespace AgentCore.Foundation.Decimal

variable {d d' n n' p u u' w last : Nat} {rest rest' : List UInt8} {f : Nat → Nat}

def digits : Nat → Nat → List UInt8
  | 0, _ => []
  | w + 1, n => (n / 10 ^ w % 10).digitChar.toUInt8 :: digits w n

lemma digits_add (v w n : Nat) : digits (v + w) n = digits v (n / 10 ^ w) ++ digits w n := by
  induction v with
  | zero => simp [digits]
  | succ v ih =>
    rw [Nat.add_right_comm, digits, digits, ih, Nat.div_div_eq_div_mul, ← Nat.pow_add,
      Nat.add_comm w v]
    rfl

lemma digits_mod_mul (w k n : Nat) : digits w (n % (10 ^ w * k)) = digits w n := by
  induction w generalizing k with
  | zero => rfl
  | succ w ih =>
    rw [digits, digits, Nat.pow_succ, Nat.mul_assoc, Nat.mod_mul_right_div_self,
      Nat.mod_mul_right_mod, ih]

lemma lt_or_eq_of_add_mul_lt (hu' : u' < p) (h : u + p * d < u' + p * d') :
    d < d' ∨ d = d' ∧ u < u' := by
  rcases Nat.lt_trichotomy d d' with hlt | rfl | hgt
  · exact .inl hlt
  · exact .inr ⟨rfl, by omega⟩
  · have hle : p * (d' + 1) ≤ p * d := Nat.mul_le_mul_left p hgt
    rw [Nat.mul_succ] at hle
    omega

lemma digits_append_lt_of_lt (h : n % 10 ^ w < n' % 10 ^ w) (rest rest' : List UInt8) :
    digits w n ++ rest < digits w n' ++ rest' := by
  have hchar : ∀ d' < 10, ∀ d < d', d.digitChar.toUInt8 < d'.digitChar.toUInt8 := by decide
  induction w with
  | zero => simp [Nat.mod_one] at h
  | succ w ih =>
    rw [digits, digits, List.cons_append, List.cons_append, List.cons_lt_cons_iff]
    rw [Nat.mod_pow_succ, Nat.mod_pow_succ] at h
    have hpos : n' % 10 ^ w < 10 ^ w := Nat.mod_lt _ (Nat.pow_pos (by decide))
    -- the first digit decides, unless it is the same
    rcases lt_or_eq_of_add_mul_lt hpos h with hlt | ⟨heq, hlt⟩
    · exact .inl (hchar _ (Nat.mod_lt _ (by decide)) _ hlt)
    · exact .inr ⟨by rw [heq], ih hlt⟩

lemma digits_append_lt (hn : n < 10 ^ w) (hn' : n' < 10 ^ w)
    (h : n < n' ∨ n = n' ∧ rest < rest') : digits w n ++ rest < digits w n' ++ rest' := by
  rcases h with h | ⟨rfl, h⟩
  · rw [← Nat.mod_eq_of_lt hn, ← Nat.mod_eq_of_lt hn'] at h
    exact digits_append_lt_of_lt h rest rest'
  · exact List.Lex.append_left _ h _

lemma digits_cons_lt (c : UInt8) (hn : n < 10 ^ w) (hn' : n' < 10 ^ w)
    (h : n < n' ∨ n = n' ∧ rest < rest') : digits w n ++ c :: rest < digits w n' ++ c :: rest' :=
  digits_append_lt hn hn' (h.imp_right (.imp_right fun h => List.cons_lt_cons_iff.mpr (.inr ⟨rfl, h⟩)))

lemma cons_lt_digits {c : UInt8} (hc : ∀ d < 10, c < d.digitChar.toUInt8) (n : Nat) :
    c :: rest < digits (w + 1) n ++ rest' :=
  List.cons_lt_cons_iff.mpr (.inl (hc _ (Nat.mod_lt _ (by decide))))

/-! ## Places -/

/-- The last place whose value is not above the number. -/
def place (f : Nat → Nat) (last n : Nat) : Nat := Nat.findGreatest (fun i => f i ≤ n) last

lemma place_le (f : Nat → Nat) (last n : Nat) : place f last n ≤ last := Nat.findGreatest_le last

lemma value_place_le (hf : f 0 = 0) : f (place f last n) ≤ n :=
  Nat.findGreatest_spec (P := fun i => f i ≤ n) (Nat.zero_le last) (by rw [hf]; exact Nat.zero_le n)

lemma lt_value_place_succ (h : n < f (last + 1)) : n < f (place f last n + 1) := by
  rcases (place_le f last n).lt_or_eq with hlt | heq
  · exact Nat.lt_of_not_le (Nat.findGreatest_is_greatest (P := fun i => f i ≤ n)
      (Nat.lt_succ_self _) hlt)
  · rwa [heq]

lemma place_lt_or_eq (hf : f 0 = 0) (h : n < n') : place f last n < place f last n' ∨
    place f last n = place f last n' ∧ n - f (place f last n) < n' - f (place f last n') := by
  have hle : f (place f last n) ≤ n := value_place_le hf
  have hmono : place f last n ≤ place f last n' :=
    Nat.le_findGreatest (place_le f last n) (hle.trans h.le)
  refine hmono.lt_or_eq.imp_right fun heq => ⟨heq, ?_⟩
  rw [← heq]
  omega

end AgentCore.Foundation.Decimal
