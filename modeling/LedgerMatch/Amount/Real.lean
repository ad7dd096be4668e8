import LedgerMatch.Amount.Basic

/-!
# Amounts as double precision numbers

Staged rows are compared by the double precision number of their amount. Whole amounts round to
the nearest number. An amount with decimals is the sum of its whole part and its fraction, rounded
to as many decimals as it has.
-/

namespace LedgerMatch.Amount

-- Powers of whole numbers are the core ones, whatever else is imported.
attribute [local instance (2000)] instPowNat

/-- The double precision number of the magnitude of an amount. -/
def realMagnitude (m : Magnitude) : Binary64 :=
  if m.scale = 0 then Binary64.ofNat m.mantissa
  else
    let parts := Binary64.ofNat (10 ^ m.scale)
    let whole := Binary64.ofNat (m.mantissa / 10 ^ m.scale)
    let rest := m.mantissa % 10 ^ m.scale
    if rest = 0 then whole
    else Binary64.round ((whole + Binary64.ofNat rest / parts) * parts) / parts

/-- The double precision number of an amount. -/
def real (a : Amount) : Binary64 :=
  if a.negative then Binary64.negate (realMagnitude a.toMagnitude) else realMagnitude a.toMagnitude

end LedgerMatch.Amount
