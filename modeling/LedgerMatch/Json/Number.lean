import LedgerMatch.Binary64.Arithmetic
import LedgerMatch.Text.Reader
import LedgerMatch.Value

/-!
# Numbers in JSON

A whole number of 64 bits keeps its value. Any other number is real: its leading digits, as many as
64 bits hold, are rounded to double precision and then multiplied or divided by one power of ten, so
that a number of many digits can miss the nearest one by its last binary digit.
-/

namespace LedgerMatch.Json

-- Powers of whole numbers are the core ones, whatever else is imported.
attribute [local instance (2000)] instPowNat

open Text (Reader)
open Text.Reader

/-- The end of the whole numbers of 64 bits. -/
def wordEnd : Nat := 2 ^ (64 : Nat)

/-- Appends digits to a number while it stays a whole number of 64 bits, and counts them. -/
def fill (acc : Nat) : List Char → Nat × Nat
  | [] => (acc, 0)
  | c :: cs =>
      if wordEnd ≤ Text.pushDigit acc c then (acc, 0)
      else
        let (n, taken) := fill (Text.pushDigit acc c) cs
        (n, taken + 1)

/-- The largest power of ten that has a double precision number. -/
def powerLimit : Nat := 308

/-- The double precision number nearest to a power of ten. -/
def power (n : Nat) : Binary64 := .ofNat (10 ^ n)

/-- Multiplies or divides a number by a power of ten, in at most so many steps beyond the first. A
number past the largest finite one is refused. -/
def shift? : Nat → Binary64 → Int → Option Binary64
  | steps, x, exponent =>
      if exponent.natAbs ≤ powerLimit then
        if 0 ≤ exponent then
          let y := x * power exponent.natAbs
          if y = .infinite false then none else some y
        else some (x / power exponent.natAbs)
      else if x = .zero false then some x
      else if 0 ≤ exponent then none
      else
        match steps with
        | 0 => some (.zero false)
        | steps + 1 => shift? steps (x / power powerLimit) (exponent + powerLimit)

/-- The end of the exponents that are taken for what they are. -/
def exponentEnd : Nat := 2 ^ (31 : Nat)

/-- The real number of digits and an exponent, without its sign. -/
def real? (significand : Nat) (places : Int) (negativePower : Bool) (size : Nat) : Option Binary64 :=
  if exponentEnd ≤ size then
    if significand ≠ 0 ∧ ¬ negativePower then none else some (.zero false)
  else shift? 3 (.ofNat significand) (places + Binary64.signed negativePower size)

/-- Reads the digits behind a point, if there is one. -/
def fraction : Reader (Option (List Char)) := do
  if ← accept '.' then pure (some (← takeSome Text.isDigit)) else pure none

/-- Reads a power of ten, if there is one: its sign and its digits. -/
def exponent : Reader (Option (Bool × List Char)) := do
  if (← accept 'e') || (← accept 'E') then
    let negative ← accept '-'
    if !negative then let _ ← accept '+'
    pure (some (negative, ← takeSome Text.isDigit))
  else pure none

/-- The value of the parts of a number. -/
def numberValue? (negative : Bool) (whole : List Char) (fraction : Option (List Char))
    (exponent : Option (Bool × List Char)) : Option Value :=
  let (n, taken) := fill 0 whole
  let withSign (x : Binary64) : Value := .real (if negative then x.negate else x)
  match fraction, exponent with
  | none, none =>
      if taken < whole.length then (real? n (whole.length - taken : Nat) false 0).map withSign
      else if negative ∧ (n = 0 ∨ wordEnd / 2 < n) then some (withSign (.ofNat n))
      else some (.integer (Binary64.signed negative n))
  | fraction, exponent =>
      let (n, decimals) := fill n (fraction.getD [])
      let (negativePower, digits) := exponent.getD (false, [])
      (real? n ((whole.length - taken : Nat) - decimals) negativePower
        (Text.digitsValue digits)).map withSign

/-- Reads a number: an optional minus sign, digits without a needless zero in front, a fraction and
a power of ten. -/
def number : Reader Value := do
  let negative ← accept '-'
  let whole ← takeSome Text.isDigit
  if 1 < whole.length ∧ whole.head? = some '0' then failure
  let fraction ← fraction
  let exponent ← exponent
  match numberValue? negative whole fraction exponent with
  | some v => pure v
  | none => failure

end LedgerMatch.Json
