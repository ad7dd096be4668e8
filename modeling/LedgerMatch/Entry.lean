import LedgerMatch.Calendar.Timestamp
import LedgerMatch.Direction
import LedgerMatch.Path

/-!
# Ledger entries and statement lines

The two kinds of records that are matched with each other. A ledger entry has a time and an amount
whose direction stands beside it; a statement line has a date, a bank and an amount with a sign.
-/

namespace LedgerMatch

/-- A transaction of the internal ledger. -/
structure LedgerEntry where
  id : String
  time : Timestamp
  direction : Direction
  amount : Amount
  source : Path
  deriving DecidableEq

/-- A line of a bank statement. -/
structure StatementLine where
  id : String
  date : Date
  direction : Direction
  bank : String
  amount : Amount
  source : Path
  deriving DecidableEq

/-- A statement line whose direction comes from the sign and whose bank is written large. -/
def StatementLine.ofSigned (id : String) (date : Date) (amount : Amount) (bank : String)
    (source : Path) : StatementLine :=
  ⟨id, date, .ofAmount amount, Text.upper bank, amount, source⟩

end LedgerMatch
