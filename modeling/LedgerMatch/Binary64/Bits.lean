import LedgerMatch.Binary64.Basic

/-!
# The interchange form of double precision numbers

A word of 64 bits holds the sign, eleven bits of exponent and 52 bits of fraction. Counts of steps
below 2 to the power 52 have exponent zero and are their own fraction.
-/

namespace LedgerMatch.Binary64

-- Powers of whole numbers are the core ones, whatever else is imported.
attribute [local instance (2000)] instPowNat

/-- The word of a number; `nan` has one word. -/
def toBits : Binary64 → Nat
  | finite s n _ =>
      (if s then 2 ^ (63 : Nat) else 0) + (n.log2 - 52) * 2 ^ (52 : Nat) + n / 2 ^ (n.log2 - 52)
  | infinite s => (if s then 2 ^ (63 : Nat) else 0) + 2047 * 2 ^ (52 : Nat)
  | nan => 2047 * 2 ^ (52 : Nat) + 2 ^ (51 : Nat)

theorem two_pow_le_limit {e : Nat} (h : e ≤ limitDigits) : 2 ^ e ≤ limit := by
  unfold limit; exact Nat.pow_le_pow_right (by decide) h

/-- The number with a leading digit before its fraction, for an exponent from 1 to 2046. -/
theorem representable_normal {e f : Nat} (he : e < 2047) (hf : f < 2 ^ (52 : Nat)) :
    Representable ((2 ^ (52 : Nat) + f) * 2 ^ (e - 1)) := by
  refine ⟨?_, 2 ^ (52 : Nat) + f, e - 1, by omega, rfl⟩
  have h : (2 ^ (52 : Nat) + f) * 2 ^ (e - 1) < 2 ^ (53 : Nat) * 2 ^ (e - 1) :=
    Nat.mul_lt_mul_of_pos_right (by omega) (Nat.two_pow_pos _)
  rw [← Nat.pow_add] at h
  exact Nat.lt_of_lt_of_le h (two_pow_le_limit (by simp only [limitDigits]; omega))

theorem representable_small {f : Nat} (hf : f < 2 ^ (52 : Nat)) : Representable f := by
  refine ⟨?_, f, 0, by omega, by simp⟩
  exact Nat.lt_of_lt_of_le hf (two_pow_le_limit (by decide))

/-- The number of a word, where every word with the largest exponent and a fraction is `nan`. -/
def ofBits (word : Nat) : Binary64 :=
  let s := decide (word / 2 ^ (63 : Nat) % 2 = 1)
  let e := word / 2 ^ (52 : Nat) % 2048
  have hf : word % 2 ^ (52 : Nat) < 2 ^ (52 : Nat) := Nat.mod_lt _ (by decide)
  if e = 0 then finite s (word % 2 ^ (52 : Nat)) (representable_small hf)
  else if he : e < 2047 then
    finite s ((2 ^ (52 : Nat) + word % 2 ^ (52 : Nat)) * 2 ^ (e - 1)) (representable_normal he hf)
  else if word % 2 ^ (52 : Nat) = 0 then infinite s
  else nan

end LedgerMatch.Binary64
