import LedgerMatch.Binary64.Basic

/-!
# Rounding keeps order

Rounding a quotient to a count of steps keeps the order of quotients with one denominator, and
leaves a count alone that needs no rounding. A bound that is itself a representable count therefore
survives the rounding of whatever it bounds.
-/

namespace LedgerMatch

-- Powers of whole numbers are the core ones, whatever else is imported.
attribute [local instance (2000)] instPowNat

theorem roundHalfEven_mono {a b : Nat} (den : Nat) (h : a ≤ b) :
    roundHalfEven a den ≤ roundHalfEven b den := by
  have hq : a / den ≤ b / den := Nat.div_le_div_right h
  rcases Nat.lt_or_eq_of_le hq with hlt | heq
  · calc roundHalfEven a den ≤ a / den + 1 := roundHalfEven_le_div_succ a den
      _ ≤ b / den := hlt
      _ ≤ roundHalfEven b den := div_le_roundHalfEven b den
  · -- with one quotient, the order is that of the remainders
    have hr : a % den ≤ b % den := by
      have ha := Nat.div_add_mod a den
      have hb := Nat.div_add_mod b den
      rw [heq] at ha
      omega
    unfold roundHalfEven
    rw [heq]
    split
    · split
      · exact Nat.le_refl _
      · split <;> omega
    · split
      · exact Nat.le_of_eq (by rw [if_neg (by omega), if_pos (by omega)])
      · rw [if_neg (by omega)]
        split <;> omega

/-- Rounding a quotient changes it by at most a half. -/
theorem roundHalfEven_near (num : Nat) {den : Nat} (h : 0 < den) :
    2 * (roundHalfEven num den * den) ≤ 2 * num + den ∧
      2 * num ≤ 2 * (roundHalfEven num den * den) + den := by
  have hnum := Nat.div_add_mod' num den
  have hmod := Nat.mod_lt num h
  have hsucc := Nat.add_one_mul (num / den) den
  unfold roundHalfEven
  split
  · omega
  · split
    · omega
    · -- a half, with an even or an odd quotient
      rcases Nat.mod_two_eq_zero_or_one (num / den) with hparity | hparity
      · rw [hparity, Nat.add_zero]
        omega
      · rw [hparity]
        omega

namespace Binary64

theorem log2_mono {a b : Nat} (h : a ≤ b) : a.log2 ≤ b.log2 := by
  by_cases ha : a = 0
  · rw [ha, Nat.log2_zero]
    exact Nat.zero_le _
  · rw [Nat.le_log2 (by omega)]
    exact Nat.le_trans (Nat.log2_self_le ha) h

theorem lostDigits_mono {a b : Nat} (den : Nat) (h : a ≤ b) :
    lostDigits a den ≤ lostDigits b den := by
  have := log2_mono (Nat.div_le_div_right (c := den) h)
  simp only [lostDigits]
  omega

/-- A quotient is rounded to no more than 53 digits in front of those it loses. -/
theorem roundSteps_le_two_pow (num den : Nat) :
    roundSteps num den ≤ 2 ^ (53 : Nat) * 2 ^ lostDigits num den :=
  Nat.mul_le_mul_right _
    (Nat.le_trans (roundHalfEven_le_div_succ _ _) (div_lostDigits_lt num den))

/-- A quotient that loses digits keeps 53 of them. -/
theorem two_pow_le_roundSteps {num den : Nat} (h : 0 < lostDigits num den) :
    2 ^ (52 : Nat) * 2 ^ lostDigits num den ≤ roundSteps num den := by
  have hlog : lostDigits num den + 52 = (num / den).log2 := by
    simp only [lostDigits] at h ⊢
    omega
  have hne : num / den ≠ 0 := by
    intro h0
    rw [h0, Nat.log2_zero] at hlog
    omega
  have hpow : 2 ^ (52 : Nat) * 2 ^ lostDigits num den ≤ num / den := by
    rw [← Nat.pow_add, Nat.add_comm, hlog]
    exact Nat.log2_self_le hne
  apply Nat.mul_le_mul_right
  calc 2 ^ (52 : Nat) ≤ num / den / 2 ^ lostDigits num den :=
        (Nat.le_div_iff_mul_le (Nat.two_pow_pos _)).2 hpow
    _ = num / (den * 2 ^ lostDigits num den) := Nat.div_div_eq_div_mul _ _ _
    _ ≤ roundHalfEven num (den * 2 ^ lostDigits num den) := div_le_roundHalfEven _ _

theorem roundSteps_mono {a b : Nat} (den : Nat) (h : a ≤ b) :
    roundSteps a den ≤ roundSteps b den := by
  rcases Nat.lt_or_eq_of_le (lostDigits_mono den h) with hlt | heq
  · -- a power of two lies between two quotients that lose different numbers of digits
    have hpow : 2 ^ (53 : Nat) * 2 ^ lostDigits a den ≤ 2 ^ (52 : Nat) * 2 ^ lostDigits b den := by
      rw [← Nat.pow_add, ← Nat.pow_add]
      exact Nat.pow_le_pow_right (by decide) (by omega)
    exact Nat.le_trans (roundSteps_le_two_pow a den)
      (Nat.le_trans hpow (two_pow_le_roundSteps (by omega)))
  · rw [roundSteps]
    rw [heq]
    exact Nat.mul_le_mul_right _ (roundHalfEven_mono _ h)

/-- The digits that a representable count would lose are zeros. -/
theorem Representable.two_pow_dvd {r : Nat} (hr : Representable r) : 2 ^ (r.log2 - 52) ∣ r := by
  obtain ⟨-, m, e, hm, rfl⟩ := hr
  by_cases h0 : m * 2 ^ e = 0
  · rw [h0]
    exact Nat.dvd_zero _
  · have hle : m * 2 ^ e ≤ 2 ^ (53 + e) := by
      rw [Nat.pow_add]
      exact Nat.mul_le_mul_right _ hm
    rcases Nat.lt_or_eq_of_le hle with hlt | heq
    · have hlog : (m * 2 ^ e).log2 < 53 + e := (Nat.log2_lt h0).2 hlt
      exact Nat.dvd_trans (Nat.pow_dvd_pow 2 (by omega)) (Nat.dvd_mul_left _ _)
    · rw [heq, Nat.log2_two_pow]
      exact Nat.pow_dvd_pow 2 (by omega)

theorem roundSteps_of_representable {r den : Nat} (hr : Representable r) (hd : 0 < den) :
    roundSteps (r * den) den = r := by
  have hlost : lostDigits (r * den) den = r.log2 - 52 := by
    rw [lostDigits, Nat.mul_div_cancel _ hd]
  obtain ⟨c, hc⟩ := hr.two_pow_dvd
  have hnum : r * den = c * (den * 2 ^ (r.log2 - 52)) := by
    calc r * den = 2 ^ (r.log2 - 52) * c * den := by rw [← hc]
      _ = c * (den * 2 ^ (r.log2 - 52)) := by
        rw [Nat.mul_comm (2 ^ (r.log2 - 52)) c, Nat.mul_assoc, Nat.mul_comm den]
  rw [roundSteps, hlost, hnum, roundHalfEven_mul (Nat.mul_pos hd (Nat.two_pow_pos _)),
    Nat.mul_comm, ← hc]

/-- A representable count that is no less than a quotient is no less than what it is rounded to. -/
theorem roundSteps_le {num den r : Nat} (hr : Representable r) (hd : 0 < den)
    (h : num ≤ r * den) : roundSteps num den ≤ r := by
  rw [← roundSteps_of_representable hr hd]
  exact roundSteps_mono den h

/-- A representable count that is no more than a quotient is no more than what it is rounded to. -/
theorem le_roundSteps {num den r : Nat} (hr : Representable r) (hd : 0 < den)
    (h : r * den ≤ num) : r ≤ roundSteps num den := by
  rw [← roundSteps_of_representable hr hd]
  exact roundSteps_mono den h

theorem roundSteps_zero (den : Nat) : roundSteps 0 den = 0 := by
  simp [roundSteps, roundHalfEven]

/-- Powers of two below the limit are representable. -/
theorem representable_two_pow {e : Nat} (h : e < limitDigits) : Representable (2 ^ e) := by
  refine ⟨?_, 1, e, by decide, by rw [Nat.one_mul]⟩
  rw [limit]
  exact Nat.pow_lt_pow_right (by decide) h

end Binary64

end LedgerMatch
