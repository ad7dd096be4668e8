/-!
# Whole numbers of 64 bits

A whole number is read from an optional sign and digits. Reading stops at the first character that
is no digit, and at the first digit with which the number leaves its range.
-/

namespace LedgerMatch.Text

/-- Why a text is not a whole number of 64 bits. -/
inductive IntegerFault where
  | empty
  | invalidDigit
  | tooLarge
  | tooSmall
  deriving DecidableEq, Repr

def IntegerFault.message : IntegerFault → String
  | empty => "cannot parse integer from empty string"
  | invalidDigit => "invalid digit found in string"
  | tooLarge => "number too large to fit in target type"
  | tooSmall => "number too small to fit in target type"

/-- The value of a digit of base ten or sixteen. -/
def digitIn? (base : Nat) (c : Char) : Option Nat :=
  let value :=
    if '0' ≤ c ∧ c ≤ '9' then some (c.toNat - 48)
    else if 'a' ≤ c ∧ c ≤ 'f' then some (c.toNat - 87)
    else if 'A' ≤ c ∧ c ≤ 'F' then some (c.toNat - 55)
    else none
  value.filter (· < base)

/-- The least whole number of 64 bits. -/
def integerMin : Int := -9223372036854775808

/-- The greatest whole number of 64 bits. -/
def integerMax : Int := 9223372036854775807

/-- Appends digits to a whole number, away from zero. -/
def readDigits (base : Nat) (negative : Bool) (acc : Int) : List Char → Except IntegerFault Int
  | [] => .ok acc
  | c :: cs =>
      match digitIn? base c with
      | none => .error .invalidDigit
      | some d =>
          let next : Int := if negative then acc * base - d else acc * base + d
          if next < integerMin then .error .tooSmall
          else if integerMax < next then .error .tooLarge
          else readDigits base negative next cs

/-- Reads an optional sign and digits. -/
def readSigned (base : Nat) : List Char → Except IntegerFault Int
  | [] => .error .empty
  | ['-'] => .error .invalidDigit
  | ['+'] => .error .invalidDigit
  | '-' :: cs => readDigits base true 0 cs
  | '+' :: cs => readDigits base false 0 cs
  | cs => readDigits base false 0 cs

/-- Reads a whole number of 64 bits, in base sixteen behind `0x`. -/
def readInteger : List Char → Except IntegerFault Int
  | '0' :: 'x' :: cs => readSigned 16 cs
  | cs => readSigned 10 cs

end LedgerMatch.Text
