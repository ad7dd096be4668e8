/-!
# Decimal numerals

The written form of a natural number in base ten, its padded form, and the value of a row of
digits.
-/

namespace LedgerMatch.Text

-- Powers of whole numbers are the core ones, whatever else is imported.
attribute [local instance (2000)] instPowNat

/-- The value of one of the characters 0 to 9. -/
def digitValue? (c : Char) : Option Nat :=
  if '0' ≤ c ∧ c ≤ '9' then some (c.toNat - 48) else none

def isDigit (c : Char) : Bool := (digitValue? c).isSome

/-- The digits of a number, without leading zeros. -/
def numeral (n : Nat) : List Char := Nat.toDigits 10 n

/-- The digits of a number, with leading zeros up to a width. -/
def paddedNumeral (width n : Nat) : List Char :=
  List.replicate (width - (numeral n).length) '0' ++ numeral n

/-- A number with a point before its last digits, as many as given, and a digit before the point. -/
def pointedNumeral (places n : Nat) : List Char :=
  if places = 0 then numeral n
  else numeral (n / 10 ^ places) ++ '.' :: paddedNumeral places (n % 10 ^ places)

/-- Appends a digit to a number. -/
def pushDigit (n : Nat) (c : Char) : Nat := 10 * n + (c.toNat - 48)

/-- The number that a row of digits denotes. -/
def digitsValue (cs : List Char) : Nat := cs.foldl pushDigit 0

/-- Reads a text that consists of digits, at least one. -/
def number? (cs : List Char) : Option Nat :=
  if cs ≠ [] ∧ cs.all isDigit then some (digitsValue cs) else none

theorem numeral_ne_nil (n : Nat) : numeral n ≠ [] := Nat.toDigits_ne_nil

theorem digitsValue_numeral (n : Nat) : digitsValue (numeral n) = n := by
  have h : ∀ (cs : List Char) (i : Nat), cs.foldl pushDigit i = Nat.ofDigitChars 10 cs i := by
    intro cs
    induction cs with
    | nil => intro i; rfl
    | cons c cs ih => intro i; simp [pushDigit, ih, Nat.ofDigitChars]
  simp only [digitsValue, numeral, h]
  exact Nat.ofDigitChars_ten_toDigits

theorem foldl_pushDigit_zeros (k i : Nat) :
    (List.replicate k '0').foldl pushDigit i = 10 ^ k * i := by
  induction k generalizing i with
  | zero => simp
  | succ k ih =>
      simp [List.replicate_succ, ih, pushDigit, Nat.pow_succ, Nat.mul_assoc]

theorem digitsValue_paddedNumeral (width n : Nat) : digitsValue (paddedNumeral width n) = n := by
  simp only [digitsValue, paddedNumeral, List.foldl_append, foldl_pushDigit_zeros, Nat.mul_zero]
  exact digitsValue_numeral n

end LedgerMatch.Text
