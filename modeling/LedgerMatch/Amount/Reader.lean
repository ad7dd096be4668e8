import LedgerMatch.Amount.Basic
import LedgerMatch.Text.Blank

/-!
# Reading amounts

The plain form has an optional sign, digits with at most one point, and underscores once a digit
was seen. Decimals beyond those that an amount can hold are rounded away, a half away from zero.
The scientific form has a power of ten behind a plain base.
-/

namespace LedgerMatch

-- Powers of whole numbers are the core ones, whatever else is imported.
attribute [local instance (2000)] instPowNat

/-- Why a text is not the plain form of an amount. -/
inductive PlainFault where
  | empty
  | noDigits
  | twoPoints
  | leadingUnderscore
  | unknownCharacter
  | tooManyDigits
  | roundingOverflow
  deriving DecidableEq, Repr

/-- Why a text is not an amount. -/
inductive AmountFault where
  | unreadable
  | base (fault : PlainFault)
  | scale (decimals : Nat)
  | tooLarge
  deriving DecidableEq, Repr

namespace PlainFault

def message : PlainFault → String
  | empty => "empty"
  | noDigits => "no digits found"
  | twoPoints => "two decimal points"
  | leadingUnderscore => "must start lead with a number"
  | unknownCharacter => "unknown character"
  | tooManyDigits => "overflow from too many digits"
  | roundingOverflow => "overflow from mantissa after rounding"

/-- The fault of a character that cannot stand where it does. -/
def ofCharacter (c : Char) : PlainFault :=
  if c = '.' then twoPoints else if c = '_' then leadingUnderscore else unknownCharacter

end PlainFault

namespace AmountFault

def message : AmountFault → String
  | unreadable => "Failed to parse"
  | base fault => "Invalid decimal: " ++ fault.message
  | scale n => "Scale exceeds the maximum precision allowed: " ++ toString n ++ " > 28"
  | tooLarge => "Number exceeds maximum value that can be represented."

end AmountFault

namespace Magnitude

/-! ### The plain form -/

/-- Appends a digit, behind the point or before it, if the result fits. -/
def push? (m : Magnitude) (point : Bool) (digit : Nat) : Option Magnitude :=
  ofParts? (10 * m.mantissa + digit) (if point then m.scale + 1 else m.scale)

/-- Adds one to the last decimal. Past the limit the last decimal is dropped. -/
def roundUp (m : Magnitude) : Except PlainFault Magnitude :=
  match ofParts? (m.mantissa + 1) m.scale with
  | some n => .ok n
  | none =>
      if m.scale = 0 then .error .roundingOverflow
      else match ofParts? ((m.mantissa + 5) / 10) (m.scale - 1) with
        | some n => .ok n
        | none => .error .roundingOverflow

/-- The first character that is neither a digit nor an underscore. -/
def stray? (cs : List Char) : Option Char := cs.find? fun c => !Text.isDigit c && c != '_'

/-- Rounds at the character behind the last decimal taken, where an underscore counts as zero. What
stands behind that character is looked at after rounding. -/
def roundAt (m : Magnitude) : List Char → Except PlainFault Magnitude
  | [] => .ok m
  | c :: rest =>
      match if c = '_' then some 0 else Text.digitValue? c with
      | none => .error (.ofCharacter c)
      | some digit =>
          match if 5 ≤ digit then m.roundUp else .ok m with
          | .error fault => .error fault
          | .ok rounded =>
              match stray? rest with
              | some d => .error (.ofCharacter d)
              | none => .ok rounded

/-- Up to this mantissa an underscore behind the last possible decimal counts as a digit. -/
def shortLimit : Nat := (2 ^ (64 : Nat) - 1) / 10 - 255

/-- Reads the digits of the plain form into a magnitude. -/
def scan (point seen : Bool) (m : Magnitude) : List Char → Except PlainFault Magnitude
  | [] => if seen then .ok m else .error .noDigits
  | c :: cs =>
      match Text.digitValue? c with
      | some digit =>
          match m.push? point digit with
          | none => if point then m.roundAt (c :: cs) else .error .tooManyDigits
          | some n =>
              if point ∧ n.scale = scaleLimit then
                n.roundAt (if m.mantissa < shortLimit then cs else cs.dropWhile (· == '_'))
              else scan point true n cs
      | none =>
          if c = '.' ∧ ¬ point then scan true seen m cs
          else if c = '_' ∧ seen then scan point seen m cs
          else .error (.ofCharacter c)

end Magnitude

namespace Amount

/-- Reads the plain form. -/
def plain (cs : List Char) : Except PlainFault Amount :=
  match cs with
  | [] => .error .empty
  | '-' :: rest => (Magnitude.zero.scan false false rest).map (·.signed true)
  | '+' :: rest => (Magnitude.zero.scan false false rest).map (·.signed false)
  | rest => (Magnitude.zero.scan false false rest).map (·.signed false)

/-! ### The scientific form -/

/-- A power of ten: its sign and its size. -/
structure Power where
  negative : Bool
  size : Nat
  deriving DecidableEq, Repr

/-- Reads the size of a power: an optional plus sign and digits below 2 to the power 32. -/
def powerSize? (cs : List Char) : Option Nat :=
  match Text.number? (if cs.head? = some '+' then cs.tail else cs) with
  | some n => if n < 2 ^ (32 : Nat) then some n else none
  | none => none

/-- Reads a power of ten. -/
def power? : List Char → Option Power
  | '-' :: cs => (powerSize? cs).map (⟨true, ·⟩)
  | cs => (powerSize? cs).map (⟨false, ·⟩)

/-- Divides an amount by a power of ten. Decimals that do not fit are an error, or rounded away if
the reading may lose them; the sign stays, also if nothing else is left. -/
def divideByPower (lossy : Bool) (a : Amount) (n : Nat) : Except AmountFault Amount :=
  if scaleLimit < n then .error (.scale n)
  else match ofParts? a.negative a.mantissa (a.scale + n) with
    | some b => .ok b
    | none =>
        let kept := roundHalfUp a.mantissa (10 ^ (a.scale + n - scaleLimit))
        match Magnitude.ofParts? kept scaleLimit with
        | some b => if lossy then .ok ⟨b, a.negative⟩ else .error (.scale (a.scale + n))
        | none => .error (.scale (a.scale + n))

/-- Multiplies an amount by a power of ten, which takes decimals away first. -/
def multiplyByPower (a : Amount) (n : Nat) : Except AmountFault Amount :=
  if n ≤ a.scale then
    match ofParts? a.negative a.mantissa (a.scale - n) with
    | some b => .ok b
    | none => .error .tooLarge
  else if scaleLimit < n then .error (.scale n)
  else match ofParts? a.negative (a.mantissa * 10 ^ (n - a.scale)) 0 with
    | some b => .ok b
    | none => .error .tooLarge

/-- Reads the scientific form: a plain base, the letter e of either case, and a power of ten. -/
def scientific (lossy : Bool) (cs : List Char) : Except AmountFault Amount :=
  match cs.dropWhile fun c => c != 'e' && c != 'E' with
  | [] => .error .unreadable
  | _ :: behind =>
      match plain (cs.takeWhile fun c => c != 'e' && c != 'E') with
      | .error fault => .error (.base fault)
      | .ok a =>
          match power? behind with
          | none => .error .unreadable
          | some p => if p.negative then a.divideByPower lossy p.size else a.multiplyByPower p.size

/-- Reads an amount: the plain form, else the scientific form with decimals rounded away, else the
scientific form without. -/
def ofChars (cs : List Char) : Except AmountFault Amount :=
  match plain cs with
  | .ok a => .ok a
  | .error _ =>
      match scientific true cs with
      | .ok a => .ok a
      | .error _ => scientific false cs

end Amount

end LedgerMatch
