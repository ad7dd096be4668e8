import LedgerMatch.Calendar.Reader
import LedgerMatch.Binary64.Arithmetic
import LedgerMatch.Path
import LedgerMatch.Value

/-!
# Values of settings

A setting is a text, a truth value, a count or a list of texts. Scalar values of one kind are
accepted where another kind is asked for, as far as they have a meaning there.
-/

namespace LedgerMatch.Value

/-- The text of a scalar. -/
def asText? : Value → Option String
  | text s => some s
  | boolean b => some (if b then "true" else "false")
  | integer n => some (toString n)
  | real x => some x.text
  | _ => none

/-- The texts of a list of scalars. -/
def asTexts? : Value → Option (List String)
  | list values => values.mapM asText?
  | _ => none

def asPath? (v : Value) : Option Path := v.asText?.map Path.mk

def asDate? (v : Value) : Option Date :=
  v.asText?.bind fun s => (Date.read looseDateLayout s.toList).toOption

/-- Words that say yes, and words that say no. -/
def truth? (s : String) : Option Bool :=
  if s = "true" ∨ s = "on" ∨ s = "yes" then some true
  else if s = "false" ∨ s = "off" ∨ s = "no" then some false
  else none

/-- The truth of a scalar: a number is true unless it is zero. -/
def asBoolean? : Value → Option Bool
  | boolean b => some b
  | integer n => some (n ≠ 0)
  | real x => some (!x.eq (.zero false))
  | text s =>
      if s = "1" then some true else if s = "0" then some false else truth? (Text.lower s)
  | _ => none

/-- The largest count. -/
def countLimit : Nat := 18446744073709551615

/-- The nearest count to a number. -/
def nearestCount (x : Binary64) : Nat :=
  match x.round.toInt? with
  | some n => Nat.min n.toNat countLimit
  | none => if x = .infinite false then countLimit else 0

/-- Reads a count: an optional plus sign and digits. -/
def count? (cs : List Char) : Option Nat :=
  (Text.number? (if cs.head? = some '+' then cs.tail else cs)).filter (· ≤ countLimit)

/-- The count of a scalar: truth counts as one. -/
def asCount? : Value → Option Nat
  | boolean b => some b.toNat
  | integer n => if 0 ≤ n then some n.toNat else none
  | real x => some (nearestCount x)
  | text s => ((truth? (Text.lower s)).map Bool.toNat).or (count? s.toList)
  | _ => none

end LedgerMatch.Value
