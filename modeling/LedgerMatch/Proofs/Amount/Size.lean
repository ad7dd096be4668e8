import LedgerMatch.Amount.Real
import LedgerMatch.Proofs.Binary64.Order

/-!
# The size of amounts

The double precision number of an amount is always finite. All numbers on the way to it lie far
below the largest one: an amount has at most 96 binary digits, and it is multiplied by at most ten
to the power 28.
-/

namespace LedgerMatch.Amount

open Binary64

-- Powers of whole numbers are the core ones, whatever else is imported.
attribute [local instance (2000)] instPowNat

-- The two large constants are never evaluated.
attribute [local irreducible] Binary64.one Binary64.limit

theorem ten_pow_le {scale : Nat} (h : scale ≤ scaleLimit) : 10 ^ scale ≤ 2 ^ (94 : Nat) :=
  Nat.le_trans (Nat.pow_le_pow_right (by decide) h) (by decide)

theorem realMagnitude_atMost (m : Magnitude) : AtMost 191 (realMagnitude m) := by
  have hm : m.mantissa ≤ 2 ^ (96 : Nat) := Nat.le_of_lt m.mantissa_lt
  have hten := ten_pow_le m.scale_le
  obtain ⟨p, hp, hparts, hone, hple⟩ :=
    ofNat_of_pos (by decide : 94 < 1024) hten (Nat.pow_pos (by decide : 0 < 10))
  have hpartsLe : AtMost 94 (Binary64.ofNat (10 ^ m.scale)) := by
    rw [hparts]
    exact hple
  have hwhole : AtMost 96 (Binary64.ofNat (m.mantissa / 10 ^ m.scale)) :=
    atMost_ofNat (by decide) (Nat.le_trans (Nat.div_le_self _ _) hm)
  have hrest : AtMost 94 (Binary64.ofNat (m.mantissa % 10 ^ m.scale)) :=
    atMost_ofNat (by decide)
      (Nat.le_trans (Nat.le_of_lt (Nat.mod_lt _ (Nat.pow_pos (by decide)))) hten)
  rw [realMagnitude]
  split
  · exact (atMost_ofNat (by decide) hm).mono (by decide)
  · dsimp only
    split
    · exact hwhole.mono (by decide)
    · have hfraction : AtMost 94
          (Binary64.ofNat (m.mantissa % 10 ^ m.scale) / Binary64.ofNat (10 ^ m.scale)) := by
        rw [hparts]
        exact hrest.div (by decide) hp hone
      have hsum := hwhole.add (by decide) (hfraction.mono (by decide))
      have hround := (hsum.mul (by decide) hpartsLe).round (by decide)
      rw [hparts] at hround ⊢
      exact hround.div (by decide) hp hone

theorem real_atMost (a : Amount) : AtMost 191 a.real := by
  rw [real]
  split
  · exact (realMagnitude_atMost _).negate
  · exact realMagnitude_atMost _

end LedgerMatch.Amount
