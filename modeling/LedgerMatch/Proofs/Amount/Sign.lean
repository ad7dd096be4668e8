import LedgerMatch.Proofs.Amount.Notation
import LedgerMatch.Proofs.Amount.Text

/-!
# Signs of amounts and of their numbers

An amount is negative if and only if it is below zero. Numbers without a sign stay so under sums,
products, quotients and rounding, so that the number of an amount has a sign only where the amount
has one.
-/

namespace LedgerMatch

-- Powers of whole numbers are the core ones, whatever else is imported.
attribute [local instance (2000)] instPowNat

-- The two large constants are never evaluated.
attribute [local irreducible] Binary64.one Binary64.limit

open Binary64

/-! ### Amounts below zero -/

namespace Amount

theorem isNegative_iff (a : Amount) : a.isNegative = true ↔ a < zero := by
  have hsize := natAbs_units a
  have hpositive := ten_pow_pos (scaleLimit - a.scale)
  show _ ↔ a.units < 0
  by_cases hzero : a.mantissa = 0
  · simp [isNegative, hzero, units_of_mantissa hzero]
  · have hpos : 0 < a.mantissa * 10 ^ (scaleLimit - a.scale) :=
      Nat.mul_pos (Nat.pos_of_ne_zero hzero) hpositive
    cases hsign : a.negative with
    | true =>
        have hunits : a.units = -((a.mantissa * 10 ^ (scaleLimit - a.scale) : Nat) : Int) := by
          rw [units, hsign]
          rfl
        simp only [isNegative, hsign, bne_iff_ne, Bool.true_and, ne_eq, hzero, not_false_iff,
          true_iff]
        omega
    | false =>
        have hunits : a.units = ((a.mantissa * 10 ^ (scaleLimit - a.scale) : Nat) : Int) := by
          rw [units, hsign]
          rfl
        simp only [isNegative, hsign, Bool.false_and, Bool.false_eq_true, false_iff]
        omega

theorem not_lt_iff {a b : Amount} : ¬ a < b ↔ b ≤ a := Int.not_lt

theorem negative_plainForm {a : Amount} (h : zero ≤ a) : a.plainForm.negative = false := by
  rw [← Bool.not_eq_true]
  intro hnegative
  exact not_lt_iff.2 h ((isNegative_iff a).1 hnegative)

end Amount

/-! ### Numbers without their sign -/

namespace Binary64

theorem abs_ofSteps (s : Bool) (num den : Nat) : (ofSteps s num den).abs = ofSteps false num den := by
  unfold ofSteps
  split <;> rfl

theorem abs_negate (x : Binary64) : x.negate.abs = x.abs := by
  cases x <;> rfl

theorem abs_ofDecimalByExtended (s : Bool) (d : Decimal) :
    (ofDecimalByExtended s d).abs = ofDecimalByExtended false d := by
  unfold ofDecimalByExtended
  split
  · rfl
  · dsimp only
    split
    · exact abs_ofSteps s _ _
    · rw [Extended.toBinary64, Extended.toBinary64]
      split <;> exact abs_ofSteps s _ _

/-- Writing and reading a number again goes by its size. -/
theorem abs_reread (x : Binary64) : x.reread.abs = x.abs.reread := by
  cases x with
  | finite s n h =>
      by_cases hn : n = 0
      · rw [reread, abs, reread, if_pos hn, if_pos hn]
        rfl
      · rw [reread, abs, reread, if_neg hn, if_neg hn]
        cases shortest? n with
        | none => rfl
        | some d => exact abs_ofDecimalByExtended s d
  | infinite s => rfl
  | nan => rfl

/-- A number that is the same without its sign. -/
def IsUnsigned (x : Binary64) : Prop := x.abs = x

theorem isUnsigned_ofSteps (num den : Nat) : (ofSteps false num den).IsUnsigned :=
  abs_ofSteps false num den

theorem isUnsigned_ofNat (n : Nat) : (ofNat n).IsUnsigned := isUnsigned_ofSteps _ _

theorem IsUnsigned.sign {s : Bool} {n : Nat} {hn : Representable n}
    (h : (finite s n hn).IsUnsigned) : s = false := by
  injection h with hsign
  exact hsign.symm

theorem IsUnsigned.not_negative {s : Bool} (h : (infinite s).IsUnsigned) : s = false := by
  injection h with hsign
  exact hsign.symm

theorem IsUnsigned.add {x y : Binary64} (hx : x.IsUnsigned) (hy : y.IsUnsigned) :
    (x + y).IsUnsigned := by
  show (Binary64.add x y).IsUnsigned
  cases x with
  | nan => rfl
  | infinite s =>
      cases hx.not_negative
      cases y with
      | nan => rfl
      | infinite t =>
          cases hy.not_negative
          rfl
      | finite t n hn => rfl
  | finite s m hm =>
      cases hx.sign
      cases y with
      | nan => rfl
      | infinite t =>
          cases hy.not_negative
          rfl
      | finite t n hn =>
          cases hy.sign
          show (ofSigned false ((m : Int) + (n : Nat))).IsUnsigned
          rw [← Int.natCast_add, ofSigned_natCast]
          exact isUnsigned_ofSteps _ _

theorem IsUnsigned.mul {x y : Binary64} (hx : x.IsUnsigned) (hy : y.IsUnsigned) :
    (x * y).IsUnsigned := by
  show (Binary64.mul x y).IsUnsigned
  cases x with
  | nan => rfl
  | infinite s =>
      cases hx.not_negative
      cases y with
      | nan => rfl
      | infinite t =>
          cases hy.not_negative
          rfl
      | finite t n hn =>
          cases hy.sign
          rw [Binary64.mul]
          split <;> rfl
  | finite s m hm =>
      cases hx.sign
      cases y with
      | nan => rfl
      | infinite t =>
          cases hy.not_negative
          rw [Binary64.mul]
          split <;> rfl
      | finite t n hn =>
          cases hy.sign
          exact isUnsigned_ofSteps _ _

theorem IsUnsigned.div {x y : Binary64} (hx : x.IsUnsigned) (hy : y.IsUnsigned) :
    (x / y).IsUnsigned := by
  show (Binary64.div x y).IsUnsigned
  cases x with
  | nan => rfl
  | infinite s =>
      cases hx.not_negative
      cases y with
      | nan => rfl
      | infinite t => rfl
      | finite t n hn =>
          cases hy.sign
          rfl
  | finite s m hm =>
      cases hx.sign
      cases y with
      | nan => rfl
      | infinite t =>
          cases hy.not_negative
          rfl
      | finite t n hn =>
          cases hy.sign
          rw [Binary64.div]
          split
          · split <;> rfl
          · exact isUnsigned_ofSteps _ _

theorem IsUnsigned.round {x : Binary64} (hx : x.IsUnsigned) : x.round.IsUnsigned := by
  cases x with
  | nan => rfl
  | infinite s => exact hx
  | finite s n hn =>
      cases hx.sign
      exact isUnsigned_ofSteps _ _

end Binary64

namespace Amount

theorem isUnsigned_realMagnitude (m : Magnitude) : (realMagnitude m).IsUnsigned := by
  rw [realMagnitude]
  split
  · exact isUnsigned_ofNat _
  · dsimp only
    split
    · exact isUnsigned_ofNat _
    · have hparts := isUnsigned_ofNat (10 ^ m.scale)
      have hfraction := (isUnsigned_ofNat (m.mantissa % 10 ^ m.scale)).div hparts
      have hsum := (isUnsigned_ofNat (m.mantissa / 10 ^ m.scale)).add hfraction
      exact (hsum.mul hparts).round.div hparts

theorem isUnsigned_real_plainForm {a : Amount} (h : zero ≤ a) : a.plainForm.real.IsUnsigned := by
  rw [real, negative_plainForm h, if_neg Bool.false_ne_true]
  exact isUnsigned_realMagnitude _

end Amount

end LedgerMatch
