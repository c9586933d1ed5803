import AgentCore.Foundation.Decimal

/-! The text of an instant as chrono's `to_rfc3339` prints it, byte by byte. Compared from the
left, the texts of two instants are in the order of the instants. -/

namespace AgentCore.Domain

open Foundation.Decimal List

variable {day day' n n' s s' : Nat} {t t' : Int} {rest rest' : List UInt8}

/-! ## The calendar -/

/-- From the first of January of the year 0, itself a leap year. -/
def daysBeforeYear (year : Nat) : Nat :=
  365 * year + (year + 3) / 4 - (year + 99) / 100 + (year + 399) / 400

def isLeap (year : Nat) : Bool := decide (year % 4 = 0 ∧ (year % 100 ≠ 0 ∨ year % 400 = 0))

def daysBeforeMonth (leap : Bool) (month : Nat) : Nat :=
  [0, 31, 59, 90, 120, 151, 181, 212, 243, 273, 304, 334, 365].getD month 0 +
    if leap && decide (2 ≤ month) then 1 else 0

def yearOf (day : Nat) : Nat := place daysBeforeYear 9999 day

def ordinalOf (day : Nat) : Nat := day - daysBeforeYear (yearOf day)

def monthOf (day : Nat) : Nat := place (daysBeforeMonth (isLeap (yearOf day))) 11 (ordinalOf day)

def dayOfMonth (day : Nat) : Nat :=
  ordinalOf day - daysBeforeMonth (isLeap (yearOf day)) (monthOf day)

lemma daysBeforeYear_succ (year : Nat) :
    daysBeforeYear (year + 1) = daysBeforeYear year + daysBeforeMonth (isLeap year) 12 := by
  have hlength : daysBeforeMonth (isLeap year) 12 = 365 + if isLeap year then 1 else 0 := by
    simp [daysBeforeMonth]
  have h4 : (year + 1 + 3) / 4 = (year + 3) / 4 + if year % 4 = 0 then 1 else 0 := by
    split <;> omega
  have h100 : (year + 1 + 99) / 100 = (year + 99) / 100 + if year % 100 = 0 then 1 else 0 := by
    split <;> omega
  have h400 : (year + 1 + 399) / 400 = (year + 399) / 400 + if year % 400 = 0 then 1 else 0 := by
    split <;> omega
  have hle : (year + 99) / 100 ≤ year := by omega
  rw [hlength, daysBeforeYear, daysBeforeYear, h4, h100, h400]
  generalize (year + 3) / 4 = a, (year + 99) / 100 = b, (year + 399) / 400 = c at *
  simp only [isLeap, decide_eq_true_eq]
  split_ifs <;> omega

lemma ordinalOf_lt (h : day < daysBeforeYear 10000) :
    ordinalOf day < daysBeforeMonth (isLeap (yearOf day)) 12 := by
  have hlt : day < daysBeforeYear (yearOf day + 1) := lt_value_place_succ h
  have hle : daysBeforeYear (yearOf day) ≤ day := value_place_le rfl
  rw [daysBeforeYear_succ] at hlt
  rw [ordinalOf]
  omega

lemma dayOfMonth_lt (h : day < daysBeforeYear 10000) : dayOfMonth day < 31 := by
  have hmonths : ∀ leap, ∀ month ≤ 11,
      daysBeforeMonth leap (month + 1) ≤ daysBeforeMonth leap month + 31 := by decide
  have hmonth := hmonths (isLeap (yearOf day)) (monthOf day) (place_le _ _ _)
  have hlt : ordinalOf day < daysBeforeMonth (isLeap (yearOf day)) (monthOf day + 1) :=
    lt_value_place_succ (ordinalOf_lt h)
  rw [dayOfMonth]
  omega

lemma monthOf_lt_or_eq (hyear : yearOf day = yearOf day') (h : ordinalOf day < ordinalOf day') :
    monthOf day < monthOf day' ∨ monthOf day = monthOf day' ∧ dayOfMonth day < dayOfMonth day' := by
  rw [dayOfMonth, dayOfMonth, monthOf, monthOf, ← hyear]
  exact place_lt_or_eq (by simp [daysBeforeMonth]) h

/-! ## The text -/

def dateText (day : Nat) : List UInt8 :=
  digits 4 (yearOf day) ++ '-'.toUInt8 :: digits 2 (monthOf day + 1) ++
    '-'.toUInt8 :: digits 2 (dayOfMonth day + 1)

def timeText (second : Nat) : List UInt8 :=
  digits 2 (second / 3600) ++ ':'.toUInt8 :: digits 2 (second / 60 % 60) ++
    ':'.toUInt8 :: digits 2 (second % 60)

/-- As many groups of three digits as it takes. -/
def fractionText (nanos : Nat) : List UInt8 :=
  if nanos = 0 then []
  else if nanos % 10 ^ 6 = 0 then '.'.toUInt8 :: digits 3 (nanos / 10 ^ 6)
  else if nanos % 10 ^ 3 = 0 then '.'.toUInt8 :: digits 6 (nanos / 10 ^ 3)
  else '.'.toUInt8 :: digits 9 nanos

def offsetText : List UInt8 := "+00:00".toList.map Char.toUInt8

def nanosPerDay : Nat := 86400 * 10 ^ 9

/-- From the beginning of the year 0. -/
def nanosSinceYear0 (t : Int) : Int := t + daysBeforeYear 1970 * nanosPerDay

/-- An instant is given by its nanoseconds since 1970. -/
def toRfc3339 (t : Int) : List UInt8 :=
  let nanos := (nanosSinceYear0 t).toNat
  dateText (nanos / nanosPerDay) ++ 'T'.toUInt8 :: (timeText (nanos / 10 ^ 9 % 86400) ++
    (fractionText (nanos % 10 ^ 9) ++ offsetText))

example : toRfc3339 1709251199500000000 =
    "2024-02-29T23:59:59.500+00:00".toList.map Char.toUInt8 := by decide +kernel

/-- The years from 0000 to 9999. -/
def FourDigitYear (t : Int) : Prop :=
  0 ≤ nanosSinceYear0 t ∧ nanosSinceYear0 t < daysBeforeYear 10000 * nanosPerDay

instance : Decidable (FourDigitYear t) := inferInstanceAs (Decidable (_ ∧ _))

/-! ## The order -/

lemma dateText_append_lt (hd : day < daysBeforeYear 10000) (hd' : day' < daysBeforeYear 10000)
    (h : day < day') : dateText day ++ rest < dateText day' ++ rest' := by
  have hfits : ∀ day, day < daysBeforeYear 10000 →
      yearOf day < 10 ^ 4 ∧ monthOf day + 1 < 10 ^ 2 ∧ dayOfMonth day + 1 < 10 ^ 2 := by
    intro day hday
    have hyear : yearOf day ≤ 9999 := place_le _ _ _
    have hmonth : monthOf day ≤ 11 := place_le _ _ _
    have hdom := dayOfMonth_lt hday
    omega
  obtain ⟨hy, hm, hdom⟩ := hfits day hd
  obtain ⟨hy', hm', hdom'⟩ := hfits day' hd'
  simp only [dateText, append_assoc, cons_append]
  refine digits_cons_lt _ hy hy' ((place_lt_or_eq rfl h).imp_right fun ⟨hyear, hordinal⟩ => ?_)
  refine ⟨hyear, digits_cons_lt _ hm hm' ?_⟩
  rcases monthOf_lt_or_eq hyear hordinal with hlt | ⟨heq, hlt⟩
  · exact .inl (by omega)
  · exact .inr ⟨by omega, digits_append_lt hdom hdom' (.inl (by omega))⟩

lemma timeText_append_lt (hs : s < 86400) (hs' : s' < 86400) (h : s < s') :
    timeText s ++ rest < timeText s' ++ rest' := by
  simp only [timeText, append_assoc, cons_append]
  have hhour : s / 3600 < s' / 3600 ∨ s / 3600 = s' / 3600 ∧
    (s / 60 % 60 < s' / 60 % 60 ∨ s / 60 % 60 = s' / 60 % 60 ∧ s % 60 < s' % 60) := by omega
  refine digits_cons_lt _ (by omega) (by omega) (hhour.imp_right (.imp_right fun hminute => ?_))
  refine digits_cons_lt _ (by omega) (by omega) (hminute.imp_right (.imp_right fun hsecond => ?_))
  exact digits_append_lt (by omega) (by omega) (.inl hsecond)

/-- What follows the decimal point, from the last `k` groups on. -/
def groupsText : Nat → Nat → List UInt8
  | 0, _ => offsetText
  | k + 1, n =>
    if n % 1000 ^ (k + 1) = 0 then offsetText else digits 3 (n / 1000 ^ k) ++ groupsText k n

lemma groupsText_lt {k : Nat} (h : n % 1000 ^ k < n' % 1000 ^ k) :
    groupsText k n < groupsText k n' := by
  induction k with
  | zero => simp [Nat.mod_one] at h
  | succ k ih =>
    rw [groupsText, groupsText, if_neg (Nat.ne_zero_of_lt h)]
    split_ifs with hzero
    · -- the shorter text goes on with the sign, which is below every digit
      exact cons_lt_digits (by decide) _
    · rw [Nat.mod_pow_succ, Nat.mod_pow_succ] at h
      have hpos : n' % 1000 ^ k < 1000 ^ k := Nat.mod_lt _ (Nat.pow_pos (by decide))
      rcases lt_or_eq_of_add_mul_lt hpos h with hlt | ⟨heq, hlt⟩
      · exact digits_append_lt_of_lt hlt _ _
      · rw [← digits_mod_mul 3 1 (n / _), ← digits_mod_mul 3 1 (n' / _)]
        exact digits_append_lt (Nat.mod_lt _ (by decide)) (Nat.mod_lt _ (by decide))
          (.inr ⟨heq, ih hlt⟩)

lemma fractionText_append (hn : n < 10 ^ 9) (hpos : n ≠ 0) :
    fractionText n ++ offsetText = '.'.toUInt8 :: groupsText 3 n := by
  have hfirst : ¬n % 1000 ^ (2 + 1) = 0 := by omega
  rw [fractionText, if_neg hpos, groupsText, if_neg hfirst, groupsText, groupsText]
  split_ifs <;> try omega
  · rfl
  · rw [digits_add 3 3, Nat.div_div_eq_div_mul]
    simp
  · rw [digits_add 3 6, digits_add 3 3]
    simp [groupsText]

lemma fractionText_append_lt (hn : n < 10 ^ 9) (hn' : n' < 10 ^ 9) (h : n < n') :
    fractionText n ++ offsetText < fractionText n' ++ offsetText := by
  rw [fractionText_append hn' (Nat.ne_zero_of_lt h)]
  by_cases hzero : n = 0
  · -- and below the point
    subst hzero
    exact cons_lt_cons_iff.mpr (.inl (by decide))
  · rw [fractionText_append hn hzero]
    refine cons_lt_cons_iff.mpr (.inr ⟨rfl, groupsText_lt ?_⟩)
    have hmod : ∀ m < 10 ^ 9, m % 1000 ^ 3 = m := fun m hm => Nat.mod_eq_of_lt hm
    rwa [hmod n hn, hmod n' hn']

lemma nanos_lt_or_eq (h : n < n') : n / nanosPerDay < n' / nanosPerDay ∨
    n / nanosPerDay = n' / nanosPerDay ∧ (n / 10 ^ 9 % 86400 < n' / 10 ^ 9 % 86400 ∨
      n / 10 ^ 9 % 86400 = n' / 10 ^ 9 % 86400 ∧ n % 10 ^ 9 < n' % 10 ^ 9) := by
  rw [nanosPerDay, Nat.mul_comm, ← Nat.div_div_eq_div_mul, ← Nat.div_div_eq_div_mul]
  omega

lemma toRfc3339_lt (ht : FourDigitYear t) (ht' : FourDigitYear t') (h : t < t') :
    toRfc3339 t < toRfc3339 t' := by
  have hday : ∀ {t}, FourDigitYear t →
      (nanosSinceYear0 t).toNat / nanosPerDay < daysBeforeYear 10000 := by
    rintro t ⟨hpos, hlt⟩
    exact Nat.div_lt_of_lt_mul (by rw [Nat.mul_comm]; omega)
  have hsecond (n : Nat) : n / 10 ^ 9 % 86400 < 86400 := Nat.mod_lt _ (by decide)
  have hnanos (n : Nat) : n % 10 ^ 9 < 10 ^ 9 := Nat.mod_lt _ (by decide)
  have hlt : (nanosSinceYear0 t).toNat < (nanosSinceYear0 t').toNat := by
    obtain ⟨hpos, -⟩ := ht
    simp only [nanosSinceYear0] at *
    omega
  rcases nanos_lt_or_eq hlt with hlt | ⟨heq, hlt | ⟨hseconds, hlt⟩⟩
  · exact dateText_append_lt (hday ht) (hday ht') hlt
  · rw [toRfc3339, toRfc3339, heq]
    refine List.Lex.append_left _ (cons_lt_cons_iff.mpr (.inr ⟨rfl, ?_⟩)) _
    exact timeText_append_lt (hsecond _) (hsecond _) hlt
  · rw [toRfc3339, toRfc3339, heq, hseconds]
    refine List.Lex.append_left _ (cons_lt_cons_iff.mpr (.inr ⟨rfl, ?_⟩)) _
    exact List.Lex.append_left _ (fractionText_append_lt (hnanos _) (hnanos _) hlt) _

lemma toRfc3339_le_iff (ht : FourDigitYear t) (ht' : FourDigitYear t') :
    toRfc3339 t ≤ toRfc3339 t' ↔ t ≤ t' := by
  constructor
  · intro hle
    exact Int.not_lt.mp fun hlt => hle (toRfc3339_lt ht' ht hlt)
  · intro hle
    rcases Int.lt_or_eq_of_le hle with hlt | rfl
    · exact List.le_of_lt (toRfc3339_lt ht ht' hlt)
    · exact List.le_refl _

end AgentCore.Domain
