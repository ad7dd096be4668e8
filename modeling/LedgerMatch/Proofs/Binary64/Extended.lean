import LedgerMatch.Binary64.Extended
import LedgerMatch.Proofs.Binary64.Order
import Mathlib.Algebra.Order.Field.Power
import Mathlib.Tactic.Linarith
import Mathlib.Tactic.Positivity
import Mathlib.Tactic.Ring

/-!
# The size of a number that is written and read again

A number is written in digits that read back to it, so that the decimal number is about as large as
the number. Reading it by way of extended precision multiplies by powers of ten, and each product is
at most doubled when it is rounded. There are few products: the number that comes of it is larger
than the first one by a small power of two at most, and finite if the first one is not among the
largest.
-/

namespace LedgerMatch

-- Powers of whole numbers are the core ones, whatever else is imported.
attribute [local instance (2000)] instPowNat

theorem roundHalfEven_mul_le {num den : Nat} (h : den ≤ num) :
    roundHalfEven num den * den ≤ 2 * num := by
  have hle := Nat.mul_le_mul_right den (roundHalfEven_le_div_succ num den)
  have hdiv := Nat.div_mul_le_self num den
  rw [Nat.succ_mul] at hle
  omega

namespace Binary64

-- The two large constants are never evaluated.
attribute [local irreducible] Binary64.one Binary64.limit

/-! ### Numbers in extended precision -/

namespace Extended

/-- What a number in extended precision stands for. -/
def value (x : Extended) : ℚ := x.significand * 2 ^ x.exponent

theorem value_nonneg (x : Extended) : 0 ≤ x.value := by
  rw [value]
  positivity

theorem value_nearest_le (n : Nat) (exponent : Int) :
    (nearest n exponent).value ≤ 2 * (n * 2 ^ exponent) := by
  have hround : roundHalfEven n (2 ^ (n.log2 - 63)) * 2 ^ (n.log2 - 63) ≤ 2 * n := by
    by_cases hn : n = 0
    · rw [hn]
      decide
    · apply roundHalfEven_mul_le
      exact Nat.le_trans (Nat.pow_le_pow_right (by decide) (Nat.sub_le _ _)) (Nat.log2_self_le hn)
  have hcast : (roundHalfEven n (2 ^ (n.log2 - 63)) : ℚ) * 2 ^ (n.log2 - 63) ≤ 2 * n := by
    exact_mod_cast hround
  have hpos : (0 : ℚ) ≤ 2 ^ exponent := by positivity
  calc (nearest n exponent).value
      = roundHalfEven n (2 ^ (n.log2 - 63)) * 2 ^ (n.log2 - 63) * 2 ^ exponent := by
        rw [value, nearest, zpow_add₀ (by norm_num), zpow_natCast]
        ring
    _ ≤ 2 * n * 2 ^ exponent := mul_le_mul_of_nonneg_right hcast hpos
    _ = 2 * (n * 2 ^ exponent) := mul_assoc _ _ _

/-- A product is at most doubled when it is rounded. -/
theorem value_mul_le (x y : Extended) : (x.mul y).value ≤ 2 * (x.value * y.value) := by
  have h := value_nearest_le (x.significand * y.significand) (x.exponent + y.exponent)
  calc (x.mul y).value
      ≤ 2 * ((x.significand * y.significand : Nat) * 2 ^ (x.exponent + y.exponent)) := h
    _ = 2 * (x.value * y.value) := by
        rw [value, value, zpow_add₀ (by norm_num), Nat.cast_mul]
        ring

theorem value_ten_le (n : Nat) : (ten n).value ≤ 2 * 10 ^ n := by
  have h := value_nearest_le (10 ^ n) 0
  rwa [zpow_zero, mul_one, Nat.cast_pow] at h

theorem value_tenth_le (n : Nat) : (tenth n).value ≤ 2 * (10 ^ n)⁻¹ := by
  obtain ⟨shift, hshift⟩ : ∃ shift, shift = (10 ^ n).log2 + 64 := ⟨_, rfl⟩
  have hle : 10 ^ n ≤ 2 ^ shift :=
    Nat.le_trans (Nat.le_of_lt Nat.lt_log2_self)
      (Nat.pow_le_pow_right (by decide) (by rw [hshift]; exact Nat.add_le_add_left (by decide) _))
  have hround : (roundHalfEven (2 ^ shift) (10 ^ n) : ℚ) * 10 ^ n ≤ 2 * 2 ^ shift := by
    exact_mod_cast roundHalfEven_mul_le hle
  have hvalue : (tenth n).value = roundHalfEven (2 ^ shift) (10 ^ n) * ((2 : ℚ) ^ shift)⁻¹ := by
    rw [value, tenth, hshift, zpow_neg, zpow_natCast]
  have hten : (0 : ℚ) < 10 ^ n := by positivity
  have htwo : (0 : ℚ) < 2 ^ shift := by positivity
  rw [hvalue, ← div_eq_mul_inv, ← div_eq_mul_inv, div_le_div_iff₀ htwo hten]
  exact hround

/-- Products with one factor, one after the other. -/
theorem value_repeat_mul_le {y : Extended} {b : ℚ} (hy : y.value ≤ 2 * b) (n : Nat) (x : Extended) :
    (Nat.repeat (·.mul y) n x).value ≤ (4 * b) ^ n * x.value := by
  have hb : 0 ≤ b := by
    have := y.value_nonneg
    linarith
  induction n with
  | zero => rw [pow_zero, one_mul]; exact le_refl _
  | succ n ih =>
      have hprev := value_nonneg (Nat.repeat (·.mul y) n x)
      calc (Nat.repeat (·.mul y) (n + 1) x).value
          ≤ 2 * ((Nat.repeat (·.mul y) n x).value * y.value) := value_mul_le _ _
        _ ≤ 2 * ((Nat.repeat (·.mul y) n x).value * (2 * b)) := by gcongr
        _ ≤ 2 * ((4 * b) ^ n * x.value * (2 * b)) := by gcongr
        _ = (4 * b) ^ (n + 1) * x.value := by ring

/-- Scaling by a power of ten, with at most eighteen products and one for each hundred. -/
theorem value_scale_le (x : Extended) (power : Int) :
    (x.scale power).value ≤ 4 ^ (18 + power.natAbs / 100) * (10 ^ power * x.value) := by
  obtain ⟨b, hb, hpos, hpower, hfactor⟩ : ∃ b : ℚ, b = (if power < 0 then 10⁻¹ else 10) ∧ 0 < b ∧
      b ^ power.natAbs = 10 ^ power ∧
      ∀ n, ((if power < 0 then tenth else ten) n).value ≤ 2 * b ^ n := by
    by_cases hneg : power < 0
    · refine ⟨10⁻¹, (if_pos hneg).symm, by norm_num, ?_, fun n => ?_⟩
      · rw [inv_pow, ← zpow_natCast, ← zpow_neg]
        congr 1
        omega
      · rw [if_pos hneg, inv_pow]
        exact value_tenth_le n
    · refine ⟨10, (if_neg hneg).symm, by norm_num, ?_, fun n => ?_⟩
      · rw [← zpow_natCast]
        congr 1
        omega
      · rw [if_neg hneg]
        exact value_ten_le n
  obtain ⟨n, hn⟩ : ∃ n, n = power.natAbs := ⟨_, rfl⟩
  have hx := x.value_nonneg
  have hdigits : n % 10 + 10 * (n % 100 / 10) + 100 * (n / 100) = n := by omega
  have hcount : n % 10 + n % 100 / 10 + n / 100 ≤ 18 + n / 100 := by omega
  rw [← hpower, ← hn]
  calc (x.scale power).value
      ≤ (4 * b ^ 1) ^ (n % 10) * ((4 * b ^ 10) ^ (n % 100 / 10)
          * ((4 * b ^ 100) ^ (n / 100) * x.value)) := by
        rw [scale, ← hn]
        refine (value_repeat_mul_le (hfactor 1) _ _).trans ?_
        gcongr
        refine (value_repeat_mul_le (hfactor 10) _ _).trans ?_
        gcongr
        exact value_repeat_mul_le (hfactor 100) _ _
    _ = 4 ^ (n % 10 + n % 100 / 10 + n / 100)
          * (b ^ (n % 10 + 10 * (n % 100 / 10) + 100 * (n / 100)) * x.value) := by
        rw [mul_pow, mul_pow, mul_pow, ← pow_mul, ← pow_mul, ← pow_mul, pow_add, pow_add, pow_add,
          pow_add, Nat.one_mul]
        ring
    _ = 4 ^ (n % 10 + n % 100 / 10 + n / 100) * (b ^ n * x.value) := by rw [hdigits]
    _ ≤ 4 ^ (18 + n / 100) * (b ^ n * x.value) := by
        gcongr
        norm_num

theorem atMost_toBinary64 {k : Nat} (s : Bool) {x : Extended} (hk : k < 1024)
    (h : x.value ≤ 2 ^ k) : AtMost k (x.toBinary64 s) := by
  rw [toBinary64]
  split
  · next hexp =>
      have hcast : (x.significand * 2 ^ x.exponent.toNat : ℚ) ≤ 2 ^ k := by
        rwa [value, ← Int.toNat_of_nonneg hexp, zpow_natCast] at h
      have hle : x.significand * 2 ^ x.exponent.toNat ≤ 2 ^ k := by exact_mod_cast hcast
      exact atMost_ofSteps _ hk (by decide) (by simpa using Nat.mul_le_mul_right one hle)
  · next hexp =>
      have hexp' : x.exponent = -((-x.exponent).toNat : Int) := by omega
      have hcast : (x.significand : ℚ) ≤ 2 ^ k * 2 ^ (-x.exponent).toNat := by
        rwa [value, hexp', zpow_neg, zpow_natCast, ← div_eq_mul_inv,
          div_le_iff₀ (by positivity)] at h
      have hle : x.significand ≤ 2 ^ k * 2 ^ (-x.exponent).toNat := by exact_mod_cast hcast
      refine atMost_ofSteps _ hk (Nat.two_pow_pos _) ?_
      calc x.significand * one ≤ 2 ^ k * 2 ^ (-x.exponent).toNat * one := Nat.mul_le_mul_right _ hle
        _ = 2 ^ k * one * 2 ^ (-x.exponent).toNat := Nat.mul_right_comm _ _ _

end Extended

/-! ### Decimal numbers -/

namespace Decimal

/-- What a decimal number stands for. -/
def value (d : Decimal) : ℚ := d.digits * 10 ^ d.exponent

theorem value_towardsWhole (n : Nat) (d : Decimal) : (d.towardsWhole n).value = d.value := by
  induction n generalizing d with
  | zero => rfl
  | succ n ih =>
      rw [towardsWhole]
      split
      · rw [ih, value, value, Nat.cast_mul, zpow_sub₀ (by norm_num)]
        push_cast
        ring
      · split
        · next h =>
            have hdigits : (d.digits : ℚ) = (d.digits / 10 : Nat) * 10 := by
              exact_mod_cast (Nat.div_mul_cancel (Nat.dvd_of_mod_eq_zero h.2)).symm
            rw [ih, value, value, hdigits, zpow_add₀ (by norm_num)]
            ring
        · rfl

theorem natAbs_exponent_towardsWhole_le (n : Nat) (d : Decimal) :
    (d.towardsWhole n).exponent.natAbs ≤ d.exponent.natAbs := by
  induction n generalizing d with
  | zero => exact Nat.le_refl _
  | succ n ih =>
      rw [towardsWhole]
      split
      · next h =>
          refine Nat.le_trans (ih _) ?_
          show (d.exponent - 1).natAbs ≤ d.exponent.natAbs
          omega
      · split
        · next h =>
            refine Nat.le_trans (ih _) ?_
            show (d.exponent + 1).natAbs ≤ d.exponent.natAbs
            omega
        · exact Nat.le_refl _

/-- A decimal number with digits is no smaller than its power of ten. -/
theorem exponent_le_of_value_le {k : Nat} {d : Decimal} (hdigits : d.digits ≠ 0)
    (h : d.value ≤ 2 ^ k) : d.exponent ≤ k := by
  by_contra hlarge
  have hone : (1 : ℚ) ≤ d.digits := by exact_mod_cast Nat.one_le_iff_ne_zero.2 hdigits
  have hten : (2 : ℚ) ^ k < 10 ^ d.exponent :=
    calc (2 : ℚ) ^ k = 2 ^ (k : Int) := (zpow_natCast _ _).symm
      _ ≤ 10 ^ (k : Int) := by rw [zpow_natCast, zpow_natCast]; gcongr; norm_num
      _ < 10 ^ d.exponent := zpow_lt_zpow_right₀ (by norm_num) (by omega)
  have hvalue : (10 : ℚ) ^ d.exponent ≤ d.value := by
    rw [value]
    have hpos : (0 : ℚ) ≤ 10 ^ d.exponent := by positivity
    nlinarith
  linarith

end Decimal

/-- Reading by way of extended precision enlarges a number by at most a power of two. -/
theorem atMost_ofDecimalByExtended {k : Nat} (s : Bool) {d : Decimal} (hk : k + 45 < 1024)
    (hexp : d.exponent.natAbs < 500) (h : d.value ≤ 2 ^ k) :
    AtMost (k + 45) (ofDecimalByExtended s d) := by
  rw [ofDecimalByExtended]
  split
  · exact atMost_zero _ s
  · dsimp only
    have hvalue := d.value_towardsWhole d.exponent.natAbs
    have hexp' := d.natAbs_exponent_towardsWhole_le d.exponent.natAbs
    generalize d.towardsWhole d.exponent.natAbs = e at hvalue hexp'
    rw [← hvalue] at h
    split
    · next hzero =>
        have hcast : (e.digits : ℚ) ≤ 2 ^ k := by
          rwa [Decimal.value, hzero, zpow_zero, mul_one] at h
        have hle : e.digits ≤ 2 ^ k := by exact_mod_cast hcast
        exact (atMost_ofSteps s (by omega) (by decide)
          (by simpa using Nat.mul_le_mul_right one hle)).mono (Nat.le_add_right _ _)
    · apply Extended.atMost_toBinary64 s hk
      have hstart : (Extended.nearest e.digits 0).value ≤ 2 * e.digits := by
        have hnearest := Extended.value_nearest_le e.digits 0
        rwa [zpow_zero, mul_one] at hnearest
      have hpower : (0 : ℚ) ≤ 10 ^ e.exponent := by positivity
      calc ((Extended.nearest e.digits 0).scale e.exponent).value
          ≤ 4 ^ (18 + e.exponent.natAbs / 100)
              * (10 ^ e.exponent * (Extended.nearest e.digits 0).value) :=
            Extended.value_scale_le _ _
        _ ≤ 4 ^ 22 * (10 ^ e.exponent * (Extended.nearest e.digits 0).value) := by
            gcongr
            · exact mul_nonneg hpower (Extended.value_nonneg _)
            · norm_num
            · omega
        _ ≤ 4 ^ 22 * (10 ^ e.exponent * (2 * e.digits)) := by gcongr
        _ = 2 ^ 45 * e.value := by
            rw [Decimal.value]
            ring
        _ ≤ 2 ^ 45 * 2 ^ k := by gcongr
        _ = 2 ^ (k + 45) := by ring

/-! ### Writing and reading again -/

/-- A fraction whose nearest number is bounded is bounded itself, if less sharply. -/
theorem lt_of_atMost_ofFraction {k num den : Nat} {s : Bool} (hk : k + 1 < 1024) (hd : 0 < den)
    (h : AtMost k (ofFraction s num den)) : num < 2 ^ (k + 1) * den := by
  by_contra hlarge
  have hround : 2 ^ (k + 1) * one ≤ roundSteps (num * one) den := by
    apply le_roundSteps (representable_bound hk) hd
    rw [Nat.mul_right_comm]
    exact Nat.mul_le_mul_right one (Nat.not_lt.1 hlarge)
  rw [ofFraction, ofSteps] at h
  split at h
  · have hle : roundSteps (num * one) den ≤ 2 ^ k * one := h
    have hpos := Nat.mul_pos (Nat.two_pow_pos k) one_pos
    rw [Nat.pow_succ, Nat.mul_right_comm] at hround
    omega
  · exact h

theorem value_le_of_atMost_ofDecimal {k : Nat} {d : Decimal} (hk : k + 1 < 1024)
    (h : AtMost k (ofDecimal false d)) : d.value ≤ 2 ^ (k + 1) := by
  rw [ofDecimal] at h
  split at h
  · next hexp =>
      have hlt := lt_of_atMost_ofFraction hk (by decide) h
      have hcast : (d.digits : ℚ) * 10 ^ d.exponent.toNat < 2 ^ (k + 1) * 1 := by exact_mod_cast hlt
      rw [Decimal.value, ← Int.toNat_of_nonneg hexp, zpow_natCast]
      linarith
  · next hexp =>
      have hlt := lt_of_atMost_ofFraction hk (Nat.pow_pos (by decide)) h
      have hcast : (d.digits : ℚ) < 2 ^ (k + 1) * 10 ^ (-d.exponent).toNat := by exact_mod_cast hlt
      have hexp' : d.exponent = -((-d.exponent).toNat : Int) := by omega
      rw [Decimal.value, hexp', zpow_neg, zpow_natCast, ← div_eq_mul_inv,
        div_le_iff₀ (by positivity)]
      exact hcast.le

theorem ofSteps_of_representable {n : Nat} (s : Bool) (h : Representable n) :
    ofSteps s n 1 = finite s n h := by
  have hround : roundSteps n 1 = n := by
    simpa using roundSteps_of_representable h (show 0 < 1 by decide)
  rw [ofSteps, dif_pos (by rw [hround]; exact h.1)]
  congr 1

theorem leadingExponent_ge (n : Nat) : -400 ≤ leadingExponent n := by
  have hne := Text.numeral_ne_nil (n * 10 ^ (400 : Nat) / one)
  have hpos := List.length_pos_of_ne_nil hne
  rw [leadingExponent]
  omega

theorem exponent_ge_of_mem_neighbours {n length : Nat} {d : Decimal} (h : d ∈ neighbours n length) :
    leadingExponent n - (length - 1 : Nat) ≤ d.exponent := by
  rw [neighbours] at h
  generalize leadingExponent n = first at h ⊢
  split at h <;> split at h <;>
    (simp only [List.mem_cons, List.not_mem_nil, or_false] at h; rcases h with rfl | rfl <;> simp)

/-- The shortest decimal number reads back, and has no digits far behind the point. -/
theorem of_shortest? {n : Nat} {d : Decimal} (h : shortest? n = some d) :
    ofDecimal false d = ofSteps false n 1 ∧ -416 ≤ d.exponent := by
  obtain ⟨i, hi, hfind⟩ := List.exists_of_findSome?_eq_some h
  have hreads := List.find?_some hfind
  have hexp := exponent_ge_of_mem_neighbours (List.mem_of_find?_eq_some hfind)
  have hleading := leadingExponent_ge n
  rw [List.mem_range] at hi
  exact ⟨eq_of_beq hreads, by omega⟩

/-- A number that is written and read again grows by at most a power of two. -/
theorem AtMost.reread {k : Nat} {x : Binary64} (hk : k < 499) (h : AtMost k x) :
    AtMost (k + 46) x.reread := by
  obtain ⟨s, n, hn, rfl, hle⟩ := h.exists_finite
  rw [Binary64.reread]
  split
  · exact atMost_zero _ false
  · cases hshort : shortest? n with
    | none => exact AtMost.mono h (Nat.le_add_right _ _)
    | some d =>
        obtain ⟨hreads, hexp⟩ := of_shortest? hshort
        rw [ofSteps_of_representable false hn] at hreads
        have hvalue : d.value ≤ 2 ^ (k + 1) := by
          apply value_le_of_atMost_ofDecimal (by omega)
          rw [hreads]
          exact hle
        show AtMost (k + 46) (ofDecimalByExtended s d)
        by_cases hdigits : d.digits = 0
        · rw [ofDecimalByExtended, if_pos hdigits]
          exact atMost_zero _ s
        · have hlarge := Decimal.exponent_le_of_value_le hdigits hvalue
          exact atMost_ofDecimalByExtended s (by omega) (by omega) hvalue

end Binary64

end LedgerMatch
