import LedgerMatch.Binary64.Arithmetic
import LedgerMatch.Text.Letter
import LedgerMatch.Text.Numeral

/-!
# Keys of settings

A key says where a value goes: it names a setting, and perhaps a field of a table or a place in a
list below it, as in `a.b` and `a[2]`. A key of any other form is the name of a setting as a whole.
Names are taken without regard to the case of their letters.
-/

namespace LedgerMatch

/-- A step from a value to one that it holds: a field of a table, or a place in a list, counted
from its end if it is negative. -/
inductive KeyStep where
  | field (name : String)
  | place (index : Int)
  deriving DecidableEq, Repr

/-- The name of a setting and the steps that lead below it. -/
structure SettingKey where
  name : String
  steps : List KeyStep
  deriving DecidableEq, Repr

namespace SettingKey

/-- The small form of a letter. The Kelvin sign is the only letter outside ASCII whose small form is
a letter of ASCII; letters whose small form lies outside are left alone. -/
def small (c : Char) : Char := if c = '\u212A' then 'k' else c.toLower

def smallText (cs : List Char) : String := String.ofList (cs.map small)

/-- A character of a name. -/
def isNameChar (c : Char) : Bool := c.isAlphanum || c == '_' || c == '-' || c == ' '

/-- The text behind spaces and tabs. -/
def skipPadding (cs : List Char) : List Char := cs.dropWhile fun c => c == ' ' || c == '\t'

/-- The end of the places of a list. -/
def placeLimit : Nat := 9223372036854775808

/-- Reads the place in a list behind an opening bracket, up to the closing one. -/
def place? (cs : List Char) : Option (Int × List Char) :=
  let cs := skipPadding cs
  let negative := cs.head? == some '-'
  let digits := if negative then cs.tail else cs
  let n := Text.digitsValue (digits.takeWhile Text.isDigit)
  match skipPadding (digits.dropWhile Text.isDigit) with
  | ']' :: rest =>
      if digits.takeWhile Text.isDigit ≠ [] ∧ (n < placeLimit ∨ (negative ∧ n = placeLimit)) then
        some (Binary64.signed negative n, rest)
      else none
  | _ => none

/-- Reads a step at the front of a text, and returns the rest. -/
def step? : List Char → Option (KeyStep × List Char)
  | '.' :: cs =>
      let name := cs.takeWhile isNameChar
      if name = [] then none else some (.field (smallText name), cs.dropWhile isNameChar)
  | '[' :: cs => (place? cs).map fun p => (.place p.1, p.2)
  | _ => none

/-- Reads the steps that a text consists of, at most as many as given. -/
def steps? : Nat → List Char → Option (List KeyStep)
  | _, [] => some []
  | 0, _ => none
  | n + 1, cs => (step? cs).bind fun s => (steps? n s.2).map (s.1 :: ·)

/-- Reads a key. -/
def ofChars (cs : List Char) : SettingKey :=
  let name := cs.takeWhile isNameChar
  let behind := cs.dropWhile isNameChar
  match if name = [] then none else steps? behind.length behind with
  | some steps => ⟨smallText name, steps⟩
  | none => ⟨smallText cs, []⟩

end SettingKey

end LedgerMatch
