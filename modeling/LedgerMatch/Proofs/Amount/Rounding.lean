import LedgerMatch.Proofs.Amount.Numeral
import LedgerMatch.Proofs.Amount.Sum
import Mathlib.Tactic.FieldSimp

/-!
# Rounding the digits of an amount

Digits are kept as long as the magnitude that they make fits. Where the first one is left out, the
magnitude has all decimals that one can have, or ten times the number does not fit: no other
magnitude is nearer to the number from below, and one that is the number is what was kept.
-/

namespace LedgerMatch

-- Powers of whole numbers are the core ones, whatever else is imported.
attribute [local instance (2000)] instPowNat

namespace Magnitude

open Text Numeral

/-- The number that a magnitude is. -/
def value (m : Magnitude) : ℚ := m.mantissa / 10 ^ m.scale

theorem value_nonneg (m : Magnitude) : 0 ≤ m.value := by
  rw [value]
  positivity

/-- What a number may be read as: the number itself if some magnitude is that number, and otherwise
one that is less than a unit of its last decimal off and leaves no room for a further digit. -/
structure Approximates (m : Magnitude) (x : ℚ) : Prop where
  exact : ∀ n : Magnitude, n.value = x → m.value = x
  near : |m.value - x| < 1 / 10 ^ m.scale
  full : m.value = x ∨ m.scale = scaleLimit ∨ mantissaLimit ≤ 10 * m.mantissa

theorem approximates_value (m : Magnitude) : m.Approximates m.value where
  exact _ _ := rfl
  near := by
    rw [sub_self, abs_zero]
    positivity
  full := Or.inl rfl

theorem value_mul (m : Magnitude) {k : Nat} (h : m.scale ≤ k) :
    m.value * 10 ^ k = (m.mantissa * 10 ^ (k - m.scale) : Nat) := by
  have hten : (10 : ℚ) ^ m.scale ≠ 0 := by positivity
  rw [value, ← Nat.add_sub_of_le h, pow_add, Nat.add_sub_cancel_left]
  rw [← mul_assoc, div_mul_cancel₀ _ hten]
  push_cast
  rfl

/-- Where no further digit has room, the only magnitude from a number on, and below the next one, is
that number. -/
theorem value_eq_of_full {m n : Magnitude} (hle : m.value ≤ n.value)
    (hlt : n.value < m.value + 1 / 10 ^ m.scale)
    (hfull : m.scale = scaleLimit ∨ mantissaLimit ≤ n.value * 10 ^ (m.scale + 1)) :
    m.value = n.value := by
  have hten : (0 : ℚ) < 10 ^ m.scale := by positivity
  have hm := value_mul m (Nat.le_refl _)
  have hlower := mul_le_mul_of_nonneg_right hle hten.le
  have hupper := mul_lt_mul_of_pos_right hlt hten
  rw [add_mul, one_div_mul_cancel hten.ne'] at hupper
  rw [hm, Nat.sub_self, Nat.pow_zero, Nat.mul_one] at hlower hupper
  rcases Nat.lt_or_ge m.scale n.scale with hmore | hfewer
  · -- the other magnitude has a further digit
    have hmantissa := value_mul n (Nat.le_refl _)
    rw [Nat.sub_self, Nat.pow_zero, Nat.mul_one] at hmantissa
    have hscale := n.scale_le
    rcases hfull with hlast | hroom
    · omega
    · have hpow : (10 : ℚ) ^ (m.scale + 1) ≤ 10 ^ n.scale :=
        pow_le_pow_right₀ (by norm_num) hmore
      have hle := mul_le_mul_of_nonneg_left hpow n.value_nonneg
      have hlimit : mantissaLimit ≤ n.mantissa := by exact_mod_cast hroom.trans (hle.trans_eq hmantissa)
      exact (Nat.not_lt_of_le hlimit n.mantissa_lt).elim
  · have hn := value_mul n hfewer
    rw [hn] at hlower hupper
    have hsame : n.mantissa * 10 ^ (m.scale - n.scale) = m.mantissa :=
      Nat.le_antisymm (Nat.le_of_lt_succ (by exact_mod_cast hupper)) (by exact_mod_cast hlower)
    rw [hsame] at hn
    refine mul_right_cancel₀ hten.ne' ?_
    rw [hn, hm, Nat.sub_self, Nat.pow_zero, Nat.mul_one]

/-! ### One further digit -/

theorem parts_of_ofParts? {mantissa scale : Nat} {n : Magnitude}
    (h : ofParts? mantissa scale = some n) : n.mantissa = mantissa ∧ n.scale = scale := by
  rw [ofParts?] at h
  split at h
  · cases h
    exact ⟨rfl, rfl⟩
  · cases h

theorem le_of_ofParts?_eq_none {mantissa scale : Nat} (hscale : scale ≤ scaleLimit)
    (h : ofParts? mantissa scale = none) : mantissaLimit ≤ mantissa := by
  rw [ofParts?, dite_eq_right_iff] at h
  by_contra hlt
  exact absurd (h ⟨Nat.lt_of_not_le hlt, hscale⟩) (by simp)

theorem mantissa_of_push? {m n : Magnitude} {point : Bool} {digit : Nat}
    (h : m.push? point digit = some n) :
    n.mantissa = 10 * m.mantissa + digit ∧ n.scale = if point then m.scale + 1 else m.scale :=
  parts_of_ofParts? h

/-- A digit that cannot be appended has no room. -/
theorem full_of_push?_eq_none {m : Magnitude} {digit : Nat} (h : m.push? true digit = none) :
    m.scale = scaleLimit ∨ mantissaLimit ≤ 10 * m.mantissa + digit := by
  have hscale := m.scale_le
  rcases Nat.eq_or_lt_of_le hscale with hlast | hmore
  · exact Or.inl hlast
  · exact Or.inr (le_of_ofParts?_eq_none hmore h)

theorem roundUp_cases {m n : Magnitude} (h : m.roundUp = .ok n) :
    (n.mantissa = m.mantissa + 1 ∧ n.scale = m.scale) ∨
      (m.mantissa + 1 = mantissaLimit ∧ m.scale = n.scale + 1 ∧
        n.mantissa = (m.mantissa + 5) / 10) := by
  have hlt := m.mantissa_lt
  rw [roundUp] at h
  split at h
  · next hone =>
      cases h
      exact Or.inl (parts_of_ofParts? hone)
  · next hone =>
      have hlimit := le_of_ofParts?_eq_none m.scale_le hone
      split at h
      · cases h
      · next hzero =>
          split at h
          · next hten =>
              cases h
              obtain ⟨hmantissa, hscale⟩ := parts_of_ofParts? hten
              exact Or.inr ⟨by omega, by omega, hmantissa⟩
          · cases h

/-- What is kept, when the digits behind it are left out. -/
theorem approximates_of_kept {m : Magnitude} {x : ℚ} (hle : m.value ≤ x)
    (hlt : x < m.value + 1 / 10 ^ m.scale)
    (hfull : m.scale = scaleLimit ∨ mantissaLimit ≤ 10 * m.mantissa) : m.Approximates x where
  exact := by
    rintro n rfl
    refine value_eq_of_full hle hlt (hfull.imp_right fun hlimit => ?_)
    have hm := value_mul m (Nat.le_add_right m.scale 1)
    rw [Nat.add_sub_cancel_left, Nat.pow_one] at hm
    calc (mantissaLimit : ℚ) ≤ (m.mantissa * 10 : Nat) := by exact_mod_cast Nat.mul_comm 10 _ ▸ hlimit
      _ = m.value * 10 ^ (m.scale + 1) := hm.symm
      _ ≤ n.value * 10 ^ (m.scale + 1) := by gcongr
  near := by
    rw [abs_lt]
    constructor <;> linarith
  full := Or.inr hfull

theorem mantissaLimit_eq : mantissaLimit = 79228162514264337593543950336 := by decide

/-- What is rounded up, when at least half a unit of the last decimal is left out. -/
theorem approximates_of_roundUp {m n : Magnitude} {x : ℚ} (h : m.roundUp = .ok n)
    (hle : m.value + 1 / 2 * (1 / 10 ^ m.scale) ≤ x) (hlt : x < m.value + 1 / 10 ^ m.scale)
    (hfull : m.scale = scaleLimit ∨ mantissaLimit ≤ x * 10 ^ (m.scale + 1)) :
    n.Approximates x := by
  have hunit : (0 : ℚ) < 1 / 10 ^ m.scale := by positivity
  have hexact : ∀ k : Magnitude, k.value = x → n.value = x := by
    rintro k rfl
    have hsame := value_eq_of_full (by linarith) hlt hfull
    linarith
  rcases roundUp_cases h with ⟨hmantissa, hscale⟩ | ⟨hlimit, hscale, hmantissa⟩
  · have hvalue : n.value = m.value + 1 / 10 ^ m.scale := by
      rw [value, value, hmantissa, hscale, Nat.cast_succ, add_div]
    refine ⟨hexact, ?_, Or.inr ?_⟩
    · rw [hscale, abs_lt]
      constructor <;> linarith
    · rw [hscale, hmantissa]
      refine hfull.imp_right fun hroom => ?_
      have hm := value_mul m (Nat.le_add_right m.scale 1)
      rw [Nat.add_sub_cancel_left, Nat.pow_one] at hm
      have hless : (mantissaLimit : ℚ) < (10 * (m.mantissa + 1) : Nat) :=
        calc (mantissaLimit : ℚ) ≤ x * 10 ^ (m.scale + 1) := hroom
          _ < (m.value + 1 / 10 ^ m.scale) * 10 ^ (m.scale + 1) := by gcongr
          _ = (10 * (m.mantissa + 1) : Nat) := by
            rw [add_mul, hm, pow_succ, ← mul_assoc, one_div_mul_cancel (by positivity)]
            push_cast
            ring
      exact le_of_lt (by exact_mod_cast hless)
  · -- every digit was a part of the limit, and the last one is dropped
    have hdigits : 10 * n.mantissa = m.mantissa + 5 := by
      rw [mantissaLimit_eq] at hlimit
      omega
    have hvalue : n.value = m.value + 5 * (1 / 10 ^ m.scale) := by
      have hcast : (10 : ℚ) * n.mantissa = m.mantissa + 5 := by exact_mod_cast hdigits
      rw [value, value, hscale, pow_succ, mul_one_div, ← add_div, ← hcast, mul_comm (10 : ℚ),
        mul_div_mul_right _ _ (by norm_num)]
    have hten : (1 : ℚ) / 10 ^ n.scale = 10 * (1 / 10 ^ m.scale) := by
      rw [hscale, pow_succ, mul_one_div, mul_comm (10 ^ n.scale : ℚ),
        div_mul_cancel_left₀ (by norm_num), one_div]
    refine ⟨hexact, ?_, Or.inr (Or.inr ?_)⟩
    · rw [hten, abs_lt]
      constructor <;> linarith
    · omega

/-! ### The digits of a magnitude -/

theorem roundAt_cons {m n : Magnitude} {c : Char} {rest : List Char}
    (h : m.roundAt (c :: rest) = .ok n) :
    ∃ digit, (if c = '_' then some 0 else digitValue? c) = some digit ∧
      (if 5 ≤ digit then m.roundUp else .ok m) = .ok n ∧ stray? rest = none := by
  rw [roundAt] at h
  split at h
  · cases h
  · next digit hdigit =>
      refine ⟨digit, hdigit, ?_⟩
      split at h
      · cases h
      · next k hround =>
          split at h
          · cases h
          · next hstray =>
              cases h
              exact ⟨hround, hstray⟩

theorem eq_of_digitValue? {c : Char} {d : Nat} (h : digitValue? c = some d) :
    isDigit c = true ∧ c.toNat - 48 = d := by
  have hdigit : isDigit c = true := by rw [isDigit, h]; rfl
  exact ⟨hdigit, Option.some.inj ((digitValue?_of_isDigit hdigit).symm.trans h)⟩

/-- The digits behind the last one taken, where a digit in front of them has no room. -/
theorem approximates_of_roundAt {m n : Magnitude} {cs : List Char} (h : m.roundAt cs = .ok n)
    (hfull : m.scale = scaleLimit ∨
      ∃ c ∈ cs.head?, isDigit c = true ∧ mantissaLimit ≤ pushDigit m.mantissa c) :
    n.Approximates (continued true m.mantissa m.scale cs) := by
  cases cs with
  | nil =>
      cases h
      rw [continued_nil]
      exact approximates_value m
  | cons c rest =>
      obtain ⟨digit, hdigit, hround, -⟩ := roundAt_cons h
      obtain ⟨hle, hlt⟩ := continued_bounds m.mantissa m.scale (c :: rest)
      rw [add_div] at hlt
      by_cases hmark : c = '_'
      · -- an underscore leaves everything behind it out, whatever it is
        subst hmark
        cases hdigit
        cases hround
        rcases hfull with hlast | ⟨c, hc, hdigit, -⟩
        · exact approximates_of_kept hle hlt (Or.inl hlast)
        · cases hc
          cases hdigit
      · rw [if_neg hmark] at hdigit
        obtain ⟨hc, rfl⟩ := eq_of_digitValue? hdigit
        have hroom : m.scale = scaleLimit ∨ mantissaLimit ≤ pushDigit m.mantissa c := by
          refine hfull.imp_right ?_
          rintro ⟨_, hhead, -, hlimit⟩
          cases hhead
          exact hlimit
        split at hround
        · next hhalf =>
            rw [continued_digit true _ _ hc, if_pos rfl] at hle hlt ⊢
            have hnext := (continued_bounds (pushDigit m.mantissa c) (m.scale + 1) rest).1
            have hpush : (10 * m.mantissa + 5 : ℚ) ≤ pushDigit m.mantissa c := by
              exact_mod_cast Nat.add_le_add_left hhalf (10 * m.mantissa)
            refine approximates_of_roundUp hround (le_trans ?_ hnext) hlt
              (hroom.imp_right fun hlimit => ?_)
            · calc m.value + 1 / 2 * (1 / 10 ^ m.scale)
                  = (10 * m.mantissa + 5) / 10 ^ (m.scale + 1) := by
                    rw [value, pow_succ]
                    field_simp
                    ring
                _ ≤ pushDigit m.mantissa c / 10 ^ (m.scale + 1) := by gcongr
            · have hcast : (mantissaLimit : ℚ) ≤ pushDigit m.mantissa c := by exact_mod_cast hlimit
              exact hcast.trans ((div_le_iff₀ (by positivity)).1 hnext)
        · next hhalf =>
            cases hround
            refine approximates_of_kept hle hlt (hroom.imp_right fun hlimit => ?_)
            rw [pushDigit, mantissaLimit_eq] at hlimit
            rw [mantissaLimit_eq]
            omega

/-- What is read, when digits follow a magnitude, behind the point or before it. -/
theorem approximates_of_scan {m n : Magnitude} {point seen : Bool} {cs : List Char}
    (h : m.scan point seen cs = .ok n) : n.Approximates (continued point m.mantissa m.scale cs) := by
  induction cs generalizing m point seen with
  | nil =>
      rw [scan] at h
      split at h
      · cases h
        rw [continued_nil]
        exact approximates_value _
      · cases h
  | cons c cs ih =>
      rw [scan] at h
      split at h
      · next digit hdigit =>
          obtain ⟨hc, rfl⟩ := eq_of_digitValue? hdigit
          split at h
          · next hpush =>
              -- a digit behind the point that has no room
              cases point with
              | false => cases h
              | true =>
                  exact approximates_of_roundAt h ((full_of_push?_eq_none hpush).imp_right
                    fun hlimit => ⟨c, rfl, hc, hlimit⟩)
          · next k hpush =>
              obtain ⟨hmantissa, hscale⟩ := mantissa_of_push? hpush
              rw [continued_digit point _ _ hc, pushDigit, ← hmantissa, ← hscale]
              split at h
              · next hlast =>
                  obtain ⟨rfl, hlast⟩ := hlast
                  split at h
                  · exact approximates_of_roundAt h (Or.inl hlast)
                  · rw [← continued_dropWhile]
                    exact approximates_of_roundAt h (Or.inl hlast)
              · exact ih h
      · next hdigit =>
          have hc : isDigit c = false := by rw [isDigit, hdigit]; rfl
          split at h
          · next hpoint =>
              obtain ⟨rfl, hbefore⟩ := hpoint
              rw [Bool.not_eq_true] at hbefore
              subst hbefore
              rw [continued_point]
              exact ih h
          · split at h
            · next hmark =>
                obtain ⟨rfl, -⟩ := hmark
                rw [continued_mark point _ _ hc (by decide)]
                exact ih h
            · cases h

end Magnitude

end LedgerMatch
