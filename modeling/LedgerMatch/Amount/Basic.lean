import LedgerMatch.Binary64.Arithmetic
import LedgerMatch.Text.Numeral

/-!
# Amounts of money

An amount is a decimal number: a whole number below 2 to the power 96, a number of decimals up to
28, and a sign. Zero has a sign only where a negative number was rounded to it. Amounts that differ
only in trailing zeros, or in the sign of zero, are equal in value but are written differently.
-/

namespace LedgerMatch

-- Powers of whole numbers are the core ones, whatever else is imported.
attribute [local instance (2000)] instPowNat

/-- The end of the whole numbers that an amount can hold. -/
def mantissaLimit : Nat := 2 ^ (96 : Nat)

/-- The largest number of decimals. -/
def scaleLimit : Nat := 28

/-- A decimal number without a sign. -/
structure Magnitude where
  mantissa : Nat
  scale : Nat
  mantissa_lt : mantissa < mantissaLimit
  scale_le : scale ≤ scaleLimit
  deriving DecidableEq

/-- A decimal number with a sign. -/
structure Amount extends Magnitude where
  negative : Bool
  deriving DecidableEq

namespace Magnitude

def zero : Magnitude := ⟨0, 0, by decide, by decide⟩

/-- Builds a magnitude from parts that fit. -/
def ofParts? (mantissa scale : Nat) : Option Magnitude :=
  if h : mantissa < mantissaLimit ∧ scale ≤ scaleLimit then some ⟨mantissa, scale, h.1, h.2⟩
  else none

/-- Puts a sign in front of anything but zero. -/
def signed (m : Magnitude) (negative : Bool) : Amount :=
  { m with negative := negative && m.mantissa != 0 }

end Magnitude

namespace Amount

def zero : Amount := Magnitude.zero.signed false

instance : Inhabited Amount := ⟨zero⟩

/-- Builds an amount from parts that fit. -/
def ofParts? (negative : Bool) (mantissa scale : Nat) : Option Amount :=
  (Magnitude.ofParts? mantissa scale).map (·.signed negative)

/-- The amount in units of the smallest decimal, as a whole number. -/
def units (a : Amount) : Int :=
  Binary64.signed a.negative (a.mantissa * 10 ^ (scaleLimit - a.scale))

instance : LT Amount := ⟨fun a b => a.units < b.units⟩
instance : LE Amount := ⟨fun a b => a.units ≤ b.units⟩
instance (a b : Amount) : Decidable (a < b) := inferInstanceAs (Decidable (a.units < b.units))
instance (a b : Amount) : Decidable (a ≤ b) := inferInstanceAs (Decidable (a.units ≤ b.units))

/-- Holds of the amounts below zero, and not of zero with a sign. -/
def isNegative (a : Amount) : Bool := a.negative && a.mantissa != 0

/-- The larger amount; of two equal ones the first. -/
def larger (a b : Amount) : Amount := if a < b then b else a

def abs (a : Amount) : Amount := a.toMagnitude.signed false

/-- The written form: exactly as many decimals as the scale says, and a digit before the point. -/
def text (a : Amount) : String :=
  let unsigned := Text.pointedNumeral a.scale a.mantissa
  String.ofList (if a.negative then '-' :: unsigned else unsigned)

theorem zero_units : zero.units = 0 := rfl

theorem isNegative_signed (m : Magnitude) (negative : Bool) :
    (m.signed negative).isNegative = (m.signed negative).negative := by
  simp [isNegative, Magnitude.signed]

end Amount

end LedgerMatch
