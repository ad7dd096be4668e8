import LedgerMatch.Amount.Basic
import LedgerMatch.Text.Blank
import LedgerMatch.Text.Letter

/-!
# Directions

Money leaves by a debit and comes in by a credit. A bank writes the direction into the sign of the
amount.
-/

namespace LedgerMatch

inductive Direction where
  | debit
  | credit
  deriving DecidableEq, Repr

namespace Direction

def text : Direction → String
  | debit => "DEBIT"
  | credit => "CREDIT"

def opposite : Direction → Direction
  | debit => credit
  | credit => debit

/-- The direction of an amount with a sign: negative amounts leave. -/
def ofAmount (a : Amount) : Direction := if a.isNegative then debit else credit

/-- Reads one of the two words as it is written. -/
def ofWord? (s : String) : Option Direction :=
  if s = "DEBIT" then some debit else if s = "CREDIT" then some credit else none

/-- Reads one of the two words in any letter case, with blanks around it. -/
def ofText? (s : String) : Option Direction := ofWord? (Text.upper (Text.trim s))

end Direction

end LedgerMatch
