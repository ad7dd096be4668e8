/-!
# Sets of characters

A set of characters is given by the code points where it begins and ends, in increasing order: the
first range begins at the first of them and ends before the second, and so on.
-/

namespace LedgerMatch.Text

/-- Holds of a character that lies behind an odd number of boundaries. -/
def liesWithin (boundaries : List Nat) (c : Char) : Bool :=
  boundaries.countP (· ≤ c.toNat) % 2 = 1

end LedgerMatch.Text
