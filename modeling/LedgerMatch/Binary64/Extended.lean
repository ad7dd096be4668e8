import LedgerMatch.Binary64.Decimal

/-!
# Decimal numbers in extended precision

A decimal number is turned into a double precision number by way of numbers with 64 significant
binary digits: its digits are multiplied by powers of ten, one after the other, and only the last
product is rounded to double precision. Digits of a product are lost at each step, so that the
result need not be the nearest number, and two decimal numbers may share it.
-/

namespace LedgerMatch.Binary64

-- Powers of whole numbers are the core ones, whatever else is imported.
attribute [local instance (2000)] instPowNat

/-- A whole number of at most 64 binary digits times a power of two. -/
structure Extended where
  significand : Nat
  exponent : Int
  deriving DecidableEq, Repr

namespace Extended

/-- The number nearest to a whole number times a power of two, a half to the even neighbour. -/
def nearest (n : Nat) (exponent : Int) : Extended :=
  ⟨roundHalfEven n (2 ^ (n.log2 - 63)), exponent + (n.log2 - 63 : Nat)⟩

def mul (x y : Extended) : Extended :=
  nearest (x.significand * y.significand) (x.exponent + y.exponent)

/-- The number nearest to ten to the power of a whole number. -/
def ten (n : Nat) : Extended := nearest (10 ^ n) 0

/-- The number nearest to the inverse of ten to the power of a whole number. -/
def tenth (n : Nat) : Extended :=
  let shift : Nat := (10 ^ n).log2 + 64
  ⟨roundHalfEven (2 ^ shift) (10 ^ n), -shift⟩

/-- Multiplies by a power of ten: by its hundreds, then by its tens, then by its ones. -/
def scale (x : Extended) (power : Int) : Extended :=
  let factor := if power < 0 then tenth else ten
  let times (n : Nat) (y : Extended) (x : Extended) := Nat.repeat (·.mul y) n x
  let n := power.natAbs
  times (n % 10) (factor 1) (times (n % 100 / 10) (factor 10) (times (n / 100) (factor 100) x))

/-- The double precision number nearest to a number. -/
def toBinary64 (negative : Bool) (x : Extended) : Binary64 :=
  if 0 ≤ x.exponent then ofFraction negative (x.significand * 2 ^ x.exponent.toNat) 1
  else ofFraction negative x.significand (2 ^ (-x.exponent).toNat)

end Extended

/-- Digits below this number can take one more decimal digit into 64 binary digits. -/
def tenfoldLimit : Nat := (2 ^ (64 : Nat) - 1) / 10

/-- Brings the power of ten of a decimal number nearer to zero, in at most so many steps: by zeros
behind its digits while these have at most 64 binary digits, or by dropping zeros there. -/
def Decimal.towardsWhole : Nat → Decimal → Decimal
  | 0, d => d
  | n + 1, d =>
      if 0 < d.exponent ∧ d.digits < tenfoldLimit then
        towardsWhole n ⟨d.digits * 10, d.exponent - 1⟩
      else if d.exponent < 0 ∧ d.digits % 10 = 0 then
        towardsWhole n ⟨d.digits / 10, d.exponent + 1⟩
      else d

/-- The number of a decimal number by way of extended precision. -/
def ofDecimalByExtended (negative : Bool) (d : Decimal) : Binary64 :=
  if d.digits = 0 then zero negative
  else
    let d := d.towardsWhole d.exponent.natAbs
    if d.exponent = 0 then ofFraction negative d.digits 1
    else ((Extended.nearest d.digits 0).scale d.exponent).toBinary64 negative

/-- The number that comes of writing a finite number in the fewest digits and reading these by way
of extended precision. Zero loses its sign. -/
def reread : Binary64 → Binary64
  | finite s n h =>
      if n = 0 then zero false
      else ((shortest? n).map (ofDecimalByExtended s)).getD (finite s n h)
  | x => x

end LedgerMatch.Binary64
