import LedgerMatch.Binary64.Bits
import LedgerMatch.Text.Letter
import LedgerMatch.Text.Numeral

/-!
# Decimal texts of double precision numbers

A finite number is written with the fewest digits that read back to it, always in positional
notation. Reading takes digits with at most one point and an optional power of ten, or the names of
the infinities and of `nan`.
-/

namespace LedgerMatch.Binary64

-- Powers of whole numbers are the core ones, whatever else is imported.
attribute [local instance (2000)] instPowNat

/-! ### Writing -/

/-- A decimal number: digits and the power of ten of the last one. -/
structure Decimal where
  digits : Nat
  exponent : Int
  deriving DecidableEq, Repr

/-- The number nearest to a decimal number. -/
def ofDecimal (negative : Bool) (d : Decimal) : Binary64 :=
  if 0 ≤ d.exponent then ofFraction negative (d.digits * 10 ^ d.exponent.toNat) 1
  else ofFraction negative d.digits (10 ^ (-d.exponent).toNat)

/-- The power of ten of the first significant digit of a positive count of steps. -/
def leadingExponent (steps : Nat) : Int :=
  ((Text.numeral (steps * 10 ^ (400 : Nat) / one)).length : Int) - 401

/-- The whole part of a count of steps in units of a power of ten. -/
def wholeAt (steps : Nat) (exponent : Int) : Nat :=
  if 0 ≤ exponent then steps / (one * 10 ^ exponent.toNat)
  else steps * 10 ^ (-exponent).toNat / one

/-- The distance of a decimal number from a count of steps, in units that depend on the exponent
alone. -/
def distance (steps : Nat) (d : Decimal) : Nat :=
  let (x, y) :=
    if 0 ≤ d.exponent then (steps, d.digits * 10 ^ d.exponent.toNat * one)
    else (steps * 10 ^ (-d.exponent).toNat, d.digits * one)
  (x - y) + (y - x)

/-- The two decimal numbers of a given length next to a count of steps, the nearer one first. -/
def neighbours (steps : Nat) (length : Nat) : List Decimal :=
  let exponent := leadingExponent steps - (length - 1 : Nat)
  let whole := wholeAt steps exponent
  let below : Decimal := ⟨whole, exponent⟩
  let above : Decimal :=
    if whole + 1 = 10 ^ length then ⟨10 ^ (length - 1), exponent + 1⟩ else ⟨whole + 1, exponent⟩
  if distance steps below ≤ distance steps above then [below, above] else [above, below]

/-- The decimal number of the fewest digits that reads back to a positive count of steps. -/
def shortest? (steps : Nat) : Option Decimal :=
  (List.range 17).findSome? fun i =>
    (neighbours steps (i + 1)).find? fun d => ofDecimal false d == ofSteps false steps 1

/-- A decimal number in positional notation. -/
def Decimal.text (d : Decimal) : List Char :=
  if 0 ≤ d.exponent then Text.numeral (d.digits * 10 ^ d.exponent.toNat)
  else Text.pointedNumeral (-d.exponent).toNat d.digits

/-- The shortest positional text that reads back to a number. -/
def text : Binary64 → String
  | finite s n _ =>
      let unsigned := if n = 0 then ['0'] else ((shortest? n).map Decimal.text).getD ['0']
      String.ofList (if s then '-' :: unsigned else unsigned)
  | infinite s => if s then "-inf" else "inf"
  | nan => "NaN"

/-! ### Reading -/

/-- Reads an exponent: an optional sign and at least one digit. -/
def exponent? : List Char → Option Int
  | '-' :: cs => (Text.number? cs).map fun n => -(n : Int)
  | '+' :: cs => (Text.number? cs).map fun n => (n : Int)
  | cs => (Text.number? cs).map fun n => (n : Int)

/-- Reads digits with at most one point between or beside them, at least one digit in all. -/
def mantissa? (cs : List Char) : Option Decimal :=
  let whole := cs.takeWhile Text.isDigit
  match cs.dropWhile Text.isDigit with
  | [] => if whole = [] then none else some ⟨Text.digitsValue whole, 0⟩
  | '.' :: fraction =>
      if (whole ++ fraction ≠ []) ∧ fraction.all Text.isDigit then
        some ⟨Text.digitsValue (whole ++ fraction), -fraction.length⟩
      else none
  | _ => none

/-- Reads a decimal number with an optional power of ten. -/
def decimal? (cs : List Char) : Option Decimal :=
  let base := cs.takeWhile fun c => c != 'e' && c != 'E'
  match cs.dropWhile fun c => c != 'e' && c != 'E' with
  | [] => mantissa? base
  | _ :: power =>
      (mantissa? base).bind fun d => (exponent? power).map fun e => ⟨d.digits, d.exponent + e⟩

/-- The number nearest to a decimal number of any exponent. Beyond 400 places in front of the
point it is infinite, beyond 400 places behind it zero. -/
def ofAnyDecimal (negative : Bool) (d : Decimal) : Binary64 :=
  let places := ((Text.numeral d.digits).length : Int) + d.exponent
  if d.digits = 0 ∨ places < -400 then zero negative
  else if 400 < places then infinite negative
  else ofDecimal negative d

/-- Reads a number without a sign. -/
def unsigned? (negative : Bool) (cs : List Char) : Option Binary64 :=
  let name := Text.lower (String.ofList cs)
  if name = "inf" ∨ name = "infinity" then some (infinite negative)
  else if name = "nan" then some nan
  else (decimal? cs).map (ofAnyDecimal negative)

/-- Reads a number with an optional sign. -/
def ofText? (s : String) : Option Binary64 :=
  match s.toList with
  | '-' :: cs => unsigned? true cs
  | '+' :: cs => unsigned? false cs
  | cs => unsigned? false cs

end LedgerMatch.Binary64
