import LedgerMatch.Amount.Real
import LedgerMatch.Proofs.Amount.Sum
import LedgerMatch.Proofs.Binary64.Extended
import Mathlib.Tactic.NormNum
import Mathlib.Tactic.Push

/-!
# Amounts written in different ways

The number of an amount is computed from its digits in several rounded steps, so that it can depend
on how the amount is written. Whole amounts, and those of at most fifteen digits, 22 of them behind
the point at most, are rounded as if only once: their number is the one nearest to the amount,
whatever zeros stand at its end.
-/

namespace LedgerMatch

-- Powers of whole numbers are the core ones, whatever else is imported.
attribute [local instance (2000)] instPowNat

-- The two large constants are never evaluated.
attribute [local irreducible] Binary64.one Binary64.limit

/-! ### Quotients of one value -/

theorem roundHalfEven_mul_right (num den : Nat) {k : Nat} (hk : 0 < k) :
    roundHalfEven (num * k) (den * k) = roundHalfEven num den := by
  have hless : 2 * (num % den * k) < den * k ↔ 2 * (num % den) < den := by
    rw [← Nat.mul_assoc, Nat.mul_lt_mul_right hk]
  have hmore : den * k < 2 * (num % den * k) ↔ den < 2 * (num % den) := by
    rw [← Nat.mul_assoc, Nat.mul_lt_mul_right hk]
  simp only [roundHalfEven, Nat.mul_mod_mul_right, Nat.mul_div_mul_right _ _ hk, hless, hmore]

/-- A quotient that is nearer than a half to a whole number is rounded to it. -/
theorem roundHalfUp_of_near {num k den : Nat} (hbelow : 2 * (k * den) < 2 * num + den)
    (habove : 2 * num < 2 * (k * den) + den) : roundHalfUp num den = k := by
  have hk : k * (2 * den) = 2 * (k * den) := Nat.mul_left_comm k 2 den
  rw [roundHalfUp, Nat.div_eq_iff (by omega), hk]
  omega

namespace Binary64

theorem roundSteps_mul_right (num den : Nat) {k : Nat} (hk : 0 < k) :
    roundSteps (num * k) (den * k) = roundSteps num den := by
  have hlost : lostDigits (num * k) (den * k) = lostDigits num den := by
    rw [lostDigits, lostDigits, Nat.mul_div_mul_right _ _ hk]
  rw [roundSteps, roundSteps, hlost, Nat.mul_right_comm, roundHalfEven_mul_right _ _ hk]

theorem ofSteps_mul_right (s : Bool) (num den : Nat) {k : Nat} (hk : 0 < k) :
    ofSteps s (num * k) (den * k) = ofSteps s num den := by
  simp only [ofSteps, roundSteps_mul_right num den hk]

/-- Fractions of one value have one number. -/
theorem ofFraction_congr (s : Bool) {num den num' den' : Nat} (hden : 0 < den) (hden' : 0 < den')
    (h : num * den' = num' * den) : ofFraction s num den = ofFraction s num' den' := by
  have hcross : num * one * den' = num' * one * den := by
    rw [Nat.mul_right_comm, h, Nat.mul_right_comm]
  rw [ofFraction, ofFraction, ← ofSteps_mul_right s (num * one) den hden', hcross,
    ← ofSteps_mul_right s (num' * one) den' hden, Nat.mul_comm den den']

/-! ### Numbers without a fraction -/

theorem two_pow_le_one {k : Nat} (h : k ≤ 1074) : 2 ^ k ≤ one :=
  calc 2 ^ k ≤ 2 ^ (0 + 1074) := Nat.pow_le_pow_right (by decide) (by omega)
    _ = 2 ^ 0 * one := (two_pow_mul_one 0).symm
    _ = one := by rw [Nat.pow_zero, Nat.one_mul]

theorem representable_whole {n : Nat} (h : n ≤ 2 ^ (53 : Nat)) : Representable (n * one) := by
  refine ⟨?_, n, 1074, h, by rw [one]⟩
  exact Nat.lt_of_le_of_lt (Nat.mul_le_mul_right one h) (representable_bound (by decide)).1

theorem ofNat_of_le {n : Nat} (h : n ≤ 2 ^ (53 : Nat)) :
    ofNat n = finite false (n * one) (representable_whole h) :=
  ofSteps_of_representable false (representable_whole h)

theorem representable_ten_pow {n : Nat} (h : n ≤ 22) : Representable (10 ^ n * one) := by
  have hlimit : 10 ^ n ≤ 2 ^ (74 : Nat) :=
    Nat.le_trans (Nat.pow_le_pow_right (by decide) h) (by decide)
  refine ⟨?_, 5 ^ n, n + 1074, ?_, ?_⟩
  · exact Nat.lt_of_le_of_lt (Nat.mul_le_mul_right one hlimit) (representable_bound (by decide)).1
  · exact Nat.le_trans (Nat.pow_le_pow_right (by decide) h) (by decide)
  · rw [one, Nat.pow_add, ← Nat.mul_assoc, ← Nat.mul_pow]

theorem ofNat_ten_pow {n : Nat} (h : n ≤ 22) :
    ofNat (10 ^ n) = finite false (10 ^ n * one) (representable_ten_pow h) :=
  ofSteps_of_representable false (representable_ten_pow h)

/-- Short whole numbers and powers of ten are exact, so that their quotient is rounded once. -/
theorem ofNat_div_ten_pow {m scale : Nat} (hm : m ≤ 2 ^ (53 : Nat)) (hscale : scale ≤ 22) :
    ofNat m / ofNat (10 ^ scale) = ofFraction false m (10 ^ scale) := by
  have hone := Binary64.one_pos
  have hparts : 10 ^ scale * one ≠ 0 := Nat.ne_of_gt (Nat.mul_pos (Nat.pow_pos (by decide)) hone)
  rw [ofNat_of_le hm, ofNat_ten_pow hscale]
  show (if 10 ^ scale * one = 0 then _ else ofSteps _ (m * one * one) (10 ^ scale * one)) = _
  rw [if_neg hparts, ofSteps_mul_right _ _ _ hone]
  rfl

/-! ### How far rounding leads -/

/-- Rounding a quotient changes it by at most half a step or by one part in 2 to the power 53. -/
theorem roundSteps_near (num : Nat) {den : Nat} (h : 0 < den) :
    |(roundSteps num den * den - num : ℚ)| ≤ den / 2 + num / 2 ^ 53 := by
  obtain ⟨lost, hlost⟩ : ∃ lost, lost = lostDigits num den := ⟨_, rfl⟩
  have hspan : den * 2 ^ lost * 2 ^ (52 : Nat) ≤ den * 2 ^ (52 : Nat) + num := by
    by_cases hzero : lost = 0
    · rw [hzero]
      omega
    · -- what is lost lies behind the first 53 digits of the quotient
      have hlog : lost + 52 = (num / den).log2 := by
        rw [lostDigits] at hlost
        omega
      have hne : num / den ≠ 0 := by
        intro hquotient
        rw [hquotient, Nat.log2_zero] at hlog
        omega
      have hpow : 2 ^ lost * 2 ^ (52 : Nat) ≤ num / den := by
        rw [← Nat.pow_add, hlog]
        exact Nat.log2_self_le hne
      calc den * 2 ^ lost * 2 ^ (52 : Nat) = 2 ^ lost * 2 ^ (52 : Nat) * den := by ac_rfl
        _ ≤ num := (Nat.le_div_iff_mul_le h).1 hpow
        _ ≤ den * 2 ^ (52 : Nat) + num := Nat.le_add_left _ _
  have hnear := roundHalfEven_near num (Nat.mul_pos h (Nat.two_pow_pos lost))
  have hround : roundSteps num den * den
      = roundHalfEven num (den * 2 ^ lost) * (den * 2 ^ lost) := by
    rw [roundSteps, ← hlost]
    ac_rfl
  rw [← hround] at hnear
  obtain ⟨hupper, hlower⟩ := hnear
  have hupper' : (2 * (roundSteps num den * den) : ℚ) ≤ 2 * num + den * 2 ^ lost := by
    exact_mod_cast hupper
  have hlower' : (2 * num : ℚ) ≤ 2 * (roundSteps num den * den) + den * 2 ^ lost := by
    exact_mod_cast hlower
  have hspan' : (den * 2 ^ lost * 2 ^ 52 : ℚ) ≤ den * 2 ^ 52 + num := by exact_mod_cast hspan
  rw [abs_le]
  constructor <;> linarith

/-- A quotient of at most a power of two is rounded to a finite number. -/
theorem exists_ofSteps (s : Bool) (num : Nat) {k den : Nat} (hk : k < 1024) (hd : 0 < den)
    (h : num ≤ 2 ^ k * one * den) :
    ∃ hn, ofSteps s num den = finite s (roundSteps num den) hn ∧
      roundSteps num den ≤ 2 ^ k * one := by
  have hle : roundSteps num den ≤ 2 ^ k * one := roundSteps_le (representable_bound hk) hd h
  have hlt := Nat.lt_of_le_of_lt hle (representable_bound hk).1
  exact ⟨roundSteps_representable hlt, dif_pos hlt, hle⟩

theorem ofSigned_natCast (n : Nat) : ofSigned false (n : Int) = ofSteps false n 1 := by
  rw [ofSigned]
  split
  · next h =>
      have hn : n = 0 := by omega
      subst hn
      rw [ofSteps_of_representable false representable_zero]
      rfl
  · have hpos : ¬ (n : Int) < 0 := by omega
    simp [hpos]

end Binary64

namespace Amount

open Binary64

/-! ### Amounts that are rounded once -/

/-- The rounded steps on the way from a whole part and a fraction to the digits of an amount lead
nearer than a half to these, if there are at most fifteen of them. -/
theorem scaled_near {whole rest parts fraction sum product : Nat}
    (hfraction : fraction = roundSteps (rest * one) parts)
    (hsum : sum = roundSteps (whole * one + fraction) 1)
    (hproduct : product = roundSteps (sum * parts) 1) (hparts : 0 < parts)
    (hle : parts ≤ 10 ^ (22 : Nat)) (hshort : whole * parts + rest < 10 ^ (15 : Nat)) :
    roundHalfUp product one = whole * parts + rest := by
  have hnearFraction := roundSteps_near (rest * one) hparts
  have hnearSum := roundSteps_near (whole * one + fraction) (show 0 < 1 by decide)
  have hnearProduct := roundSteps_near (sum * parts) (show 0 < 1 by decide)
  rw [← hfraction] at hnearFraction
  rw [← hsum] at hnearSum
  rw [← hproduct] at hnearProduct
  -- a step is far smaller than one, also a power of ten times
  have hone : 10 ^ (22 : Nat) * 2 ^ (60 : Nat) ≤ one := by
    calc 10 ^ (22 : Nat) * 2 ^ (60 : Nat) ≤ 2 ^ (134 : Nat) := by decide
      _ ≤ one := two_pow_le_one (by decide)
  have hpartsQ : (1 : ℚ) ≤ parts := by exact_mod_cast hparts
  have hsmall : (parts * 2 ^ 60 : ℚ) ≤ one := by
    exact_mod_cast Nat.le_trans (Nat.mul_le_mul_right _ hle) hone
  have hdigits : ((whole * parts + rest) * one : ℚ) ≤ 10 ^ 15 * one := by
    exact_mod_cast Nat.mul_le_mul_right one (Nat.le_of_lt hshort)
  have hwhole : (0 : ℚ) ≤ whole * parts * one := by positivity
  push_cast at hnearFraction hnearSum hnearProduct
  rw [abs_le] at hnearFraction hnearSum hnearProduct
  -- the errors of the sum are multiplied by the number of parts
  have hsumUpper := mul_le_mul_of_nonneg_right hnearSum.2 (by linarith : (0 : ℚ) ≤ parts)
  have hsumLower := mul_le_mul_of_nonneg_right hnearSum.1 (by linarith : (0 : ℚ) ≤ parts)
  have hupper : (2 * product : ℚ) < 2 * ((whole * parts + rest) * one) + one := by
    linarith
  have hlower : (2 * ((whole * parts + rest) * one) : ℚ) < 2 * product + one := by
    linarith
  exact roundHalfUp_of_near (by exact_mod_cast hlower) (by exact_mod_cast hupper)

end Amount

/-- Without a fraction, or with at most fifteen digits of which at most 22 lie behind the point. -/
def Magnitude.RoundsOnce (m : Magnitude) : Prop :=
  10 ^ m.scale ∣ m.mantissa ∨ m.mantissa < 10 ^ (15 : Nat) ∧ m.scale ≤ 22

instance (m : Magnitude) : Decidable m.RoundsOnce := inferInstanceAs (Decidable (_ ∨ _))

namespace Amount

open Binary64

theorem realMagnitude_of_dvd {m : Magnitude} (h : 10 ^ m.scale ∣ m.mantissa) :
    realMagnitude m = ofFraction false m.mantissa (10 ^ m.scale) := by
  have hparts : 0 < 10 ^ m.scale := Nat.pow_pos (by decide)
  rw [realMagnitude]
  split
  · next hscale =>
      rw [hscale]
      rfl
  · have hrest : m.mantissa % 10 ^ m.scale = 0 := Nat.mod_eq_zero_of_dvd h
    simp only [hrest, if_true]
    exact ofFraction_congr false (by decide) hparts (by rw [Nat.div_mul_cancel h, Nat.mul_one])

/-- The number of a short amount with a fraction, step by step. -/
theorem realMagnitude_of_rest {m : Magnitude} (hshort : m.mantissa < 10 ^ (15 : Nat))
    (hscale : m.scale ≤ 22) (hrest : m.mantissa % 10 ^ m.scale ≠ 0) :
    realMagnitude m = ofFraction false m.mantissa (10 ^ m.scale) := by
  obtain ⟨parts, hparts⟩ : ∃ parts, parts = 10 ^ m.scale := ⟨_, rfl⟩
  obtain ⟨whole, hwhole⟩ : ∃ whole, whole = m.mantissa / parts := ⟨_, rfl⟩
  obtain ⟨rest, hrestEq⟩ : ∃ rest, rest = m.mantissa % parts := ⟨_, rfl⟩
  have hone := Binary64.one_pos
  have hpos : 0 < parts := hparts ▸ Nat.pow_pos (by decide)
  have hsize : parts ≤ 10 ^ (22 : Nat) := hparts ▸ Nat.pow_le_pow_right (by decide) hscale
  have hdigits : whole * parts + rest = m.mantissa := by
    rw [hwhole, hrestEq, Nat.mul_comm]
    exact Nat.div_add_mod _ _
  have hrestLt : rest < parts := hrestEq ▸ Nat.mod_lt _ hpos
  have hwholeLe : whole ≤ m.mantissa := hwhole ▸ Nat.div_le_self _ _
  have hrestLe : rest ≤ m.mantissa := hrestEq ▸ Nat.mod_le _ _
  have hscale' : m.scale ≠ 0 := by
    intro hzero
    rw [hzero, Nat.pow_zero, Nat.mod_one] at hrest
    exact hrest rfl
  -- the fraction, its sum with the whole part and the product are finite
  obtain ⟨fraction, hfraction⟩ : ∃ n, n = roundSteps (rest * one) parts := ⟨_, rfl⟩
  obtain ⟨sum, hsum⟩ : ∃ n, n = roundSteps (whole * one + fraction) 1 := ⟨_, rfl⟩
  obtain ⟨product, hproduct⟩ : ∃ n, n = roundSteps (sum * parts) 1 := ⟨_, rfl⟩
  obtain ⟨hf, hfractionSteps, hfractionLe⟩ := exists_ofSteps false (rest * one) (k := 0)
    (by decide) hpos (by
      rw [Nat.pow_zero, Nat.one_mul, Nat.mul_comm]
      exact Nat.mul_le_mul_left one (Nat.le_of_lt hrestLt))
  obtain ⟨hs, hsumSteps, hsumLe⟩ := exists_ofSteps false (whole * one + fraction) (k := 50)
    (by decide) (show 0 < 1 by decide) (by
      have hwholeOne : (whole + 1) * one ≤ 2 ^ (50 : Nat) * one :=
        Nat.mul_le_mul_right one (by omega)
      rw [Nat.add_mul] at hwholeOne
      omega)
  obtain ⟨hp, hproductSteps, -⟩ := exists_ofSteps false (sum * parts) (k := 124) (by decide)
    (show 0 < 1 by decide) (by
      calc sum * parts ≤ 2 ^ (50 : Nat) * one * 2 ^ (74 : Nat) :=
            Nat.mul_le_mul (hsum ▸ hsumLe) (Nat.le_trans hsize (by decide))
        _ = 2 ^ (124 : Nat) * one * 1 := by
          rw [Nat.mul_right_comm, ← Nat.pow_add, Nat.mul_one])
  simp only [← hfraction, ← hsum, ← hproduct] at hf hfractionSteps hs hsumSteps hp hproductSteps
  have hquotient : ofNat rest / ofNat parts = finite false fraction hf := by
    rw [hparts, ofNat_div_ten_pow (by omega) hscale, ← hparts]
    exact hfractionSteps
  have hadd : ofNat whole + finite false fraction hf = finite false sum hs := by
    rw [ofNat_of_le (by omega)]
    show ofSigned false (((whole * one : Nat) : Int) + (fraction : Nat)) = _
    rw [← Int.natCast_add, ofSigned_natCast]
    exact hsumSteps
  have hmul : finite false sum hs * ofNat parts = finite false product hp := by
    obtain ⟨h, hnumber⟩ : ∃ h, ofNat parts = finite false (parts * one) h := by
      rw [hparts]
      exact ⟨_, ofNat_ten_pow hscale⟩
    rw [hnumber]
    show ofSteps false (sum * (parts * one)) one = _
    have hscaled := ofSteps_mul_right false (sum * parts) 1 hone
    rwa [Nat.one_mul, Nat.mul_assoc, hproductSteps] at hscaled
  have hround : Binary64.round (finite false product hp) = ofNat m.mantissa := by
    show ofFraction false (roundHalfUp product one) 1 = _
    rw [scaled_near hfraction hsum hproduct hpos hsize (hdigits ▸ hshort), hdigits]
    rfl
  rw [realMagnitude, if_neg hscale']
  simp only [← hparts, ← hwhole, ← hrestEq] at hrest ⊢
  rw [if_neg hrest, hquotient, hadd, hmul, hround, hparts]
  exact ofNat_div_ten_pow (by omega) hscale

/-- The number of an amount that is rounded once is the one nearest to it. -/
theorem realMagnitude_of_roundsOnce {m : Magnitude} (h : m.RoundsOnce) :
    realMagnitude m = ofFraction false m.mantissa (10 ^ m.scale) := by
  by_cases hrest : m.mantissa % 10 ^ m.scale = 0
  · exact realMagnitude_of_dvd (Nat.dvd_of_mod_eq_zero hrest)
  · rcases h with hdvd | ⟨hshort, hscale⟩
    · exact absurd (Nat.mod_eq_zero_of_dvd hdvd) hrest
    · exact realMagnitude_of_rest hshort hscale hrest

/-- Two amounts of one size that are rounded once have one number. -/
theorem realMagnitude_congr {a b : Amount} (ha : a.RoundsOnce) (hb : b.RoundsOnce)
    (h : a.units.natAbs = b.units.natAbs) :
    realMagnitude a.toMagnitude = realMagnitude b.toMagnitude := by
  have hcross : a.mantissa * 10 ^ b.scale = b.mantissa * 10 ^ a.scale := by
    rw [natAbs_units, natAbs_units] at h
    refine Nat.eq_of_mul_eq_mul_right (ten_pow_pos scaleLimit) ?_
    calc a.mantissa * 10 ^ b.scale * 10 ^ scaleLimit
        = a.mantissa * 10 ^ (scaleLimit - a.scale) * (10 ^ a.scale * 10 ^ b.scale) := by
          rw [← ten_pow_whole a.scale_le]
          ac_rfl
      _ = b.mantissa * 10 ^ (scaleLimit - b.scale) * (10 ^ a.scale * 10 ^ b.scale) := by rw [h]
      _ = b.mantissa * 10 ^ a.scale * 10 ^ scaleLimit := by
          rw [← ten_pow_whole b.scale_le]
          ac_rfl
  rw [realMagnitude_of_roundsOnce ha, realMagnitude_of_roundsOnce hb]
  exact ofFraction_congr false (ten_pow_pos _) (ten_pow_pos _) hcross

end Amount

end LedgerMatch
