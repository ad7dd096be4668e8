import LedgerMatch.Amount.Basic

/-!
# Sums of amounts

A sum has the larger number of decimals of its terms. Where it does not fit, decimals are dropped
from its end, a half to the even neighbour, and there is no sum if none are left to drop.
-/

namespace LedgerMatch.Amount

-- Powers of whole numbers are the core ones, whatever else is imported.
attribute [local instance (2000)] instPowNat

/-- The signed mantissa of an amount when it is written with more decimals. -/
def mantissaAt (a : Amount) (scale : Nat) : Int :=
  Binary64.signed a.negative (a.mantissa * 10 ^ (scale - a.scale))

/-- The amount with the most decimals, up to a scale, that a whole number of the scale's units
rounds to. -/
def fit? (total : Int) (scale : Nat) : Option Amount :=
  (List.range (scale + 1)).findSome? fun dropped =>
    ofParts? (total < 0) (roundHalfEven total.natAbs (10 ^ dropped)) (scale - dropped)

/-- The sum of two amounts. A zero leaves the other term as it is. -/
def add? (a b : Amount) : Option Amount :=
  if a.mantissa = 0 then some b
  else if b.mantissa = 0 then some a
  else
    let scale := Nat.max a.scale b.scale
    fit? (a.mantissaAt scale + b.mantissaAt scale) scale

end LedgerMatch.Amount
