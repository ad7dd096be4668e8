import LedgerMatch.Binary64.Arithmetic
import LedgerMatch.Text.Integer
import LedgerMatch.Value

/-!
# Numbers and truth values in TOML

A word is a run of characters without blanks, such as a number, a date or a truth value. Digits of
a number may have single underscores between them. Whole numbers have 64 bits.
-/

namespace LedgerMatch.Toml

/-- Digits without the underscores between them. An underscore needs a digit on both sides. -/
def plainDigits? (digit : Char → Bool) : List Char → Option (List Char)
  | [] => none
  | [c] => if digit c then some [c] else none
  | c :: '_' :: cs => if digit c then (plainDigits? digit cs).map (c :: ·) else none
  | c :: cs => if digit c then (plainDigits? digit cs).map (c :: ·) else none

/-- A whole number if it has 64 bits. -/
def bounded? (n : Int) : Option Value :=
  if Text.integerMin ≤ n ∧ n ≤ Text.integerMax then some (.integer n) else none

/-- The number that digits of a base denote. -/
def valueIn (base : Nat) (cs : List Char) : Nat :=
  cs.foldl (fun n c => n * base + (Text.digitIn? base c).getD 0) 0

/-- Reads the digits of a whole number of a base. -/
def wholeIn? (base : Nat) (cs : List Char) : Option Value :=
  (plainDigits? (fun c => (Text.digitIn? base c).isSome) cs).bind fun ds =>
    bounded? (valueIn base ds)

/-- The sign in front of a word, and the rest. -/
def splitSign : List Char → Bool × List Char
  | '-' :: cs => (true, cs)
  | '+' :: cs => (false, cs)
  | cs => (false, cs)

/-- Decimal digits without a needless zero in front. -/
def decimalDigits? (cs : List Char) : Option (List Char) :=
  (plainDigits? Text.isDigit cs).filter fun ds => ds.length = 1 ∨ ds.head? ≠ some '0'

/-- Reads a whole number. -/
def integer? : List Char → Option Value
  | '0' :: 'x' :: cs => wholeIn? 16 cs
  | '0' :: 'o' :: cs => wholeIn? 8 cs
  | '0' :: 'b' :: cs => wholeIn? 2 cs
  | cs =>
      let (negative, digits) := splitSign cs
      (decimalDigits? digits).bind fun ds =>
        bounded? (Binary64.signed negative (Text.digitsValue ds))

def isPowerMark (c : Char) : Bool := c == 'e' || c == 'E'

/-- Reads the power of ten behind a number, none for an empty text. -/
def power? : List Char → Option Int
  | [] => some 0
  | c :: cs =>
      if isPowerMark c then
        let (negative, digits) := splitSign cs
        (plainDigits? Text.isDigit digits).map fun ds =>
          Binary64.signed negative (Text.digitsValue ds)
      else none

/-- Reads the digits behind a point, none for an empty text. -/
def fraction? : List Char → Option (List Char)
  | [] => some []
  | '.' :: cs => plainDigits? Text.isDigit cs
  | _ => none

/-- Reads a number with a point, a power of ten or both. -/
def decimal? (cs : List Char) : Option Binary64.Decimal := do
  if cs.all fun c => c != '.' && !isPowerMark c then failure
  let base := cs.takeWhile fun c => !isPowerMark c
  let whole ← decimalDigits? (base.takeWhile (· != '.'))
  let fraction ← fraction? (base.dropWhile (· != '.'))
  let power ← power? (cs.dropWhile fun c => !isPowerMark c)
  some ⟨Text.digitsValue (whole ++ fraction), power - fraction.length⟩

/-- Reads a real number. A positive number past the largest finite one is refused. -/
def real? (cs : List Char) : Option Value :=
  let (negative, rest) := splitSign cs
  if rest = ['i', 'n', 'f'] then some (.real (.infinite negative))
  else if rest = ['n', 'a', 'n'] then some (.real .nan)
  else (decimal? rest).bind fun d =>
    let x := Binary64.ofAnyDecimal negative d
    if x = .infinite false then none else some (.real x)

/-- Reads a truth value. -/
def boolean? (cs : List Char) : Option Value :=
  if cs = ['t', 'r', 'u', 'e'] then some (.boolean true)
  else if cs = ['f', 'a', 'l', 's', 'e'] then some (.boolean false)
  else none

end LedgerMatch.Toml
