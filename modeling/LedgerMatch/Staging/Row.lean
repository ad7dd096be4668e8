import LedgerMatch.Amount.Real
import LedgerMatch.Binary64.Extended
import LedgerMatch.Window

/-!
# Staged rows

The staging area keeps records as texts: the date decides whether a row is in scope and the amount
is read back for reports. Beside the text stands a double precision number, by which rows are
matched: that of the amount, written and read again in decimal digits.
-/

namespace LedgerMatch

/-- The days and banks that the staging area was prepared for, as texts. -/
structure StagingScope where
  first : String
  last : String
  banks : List String
  deriving DecidableEq

/-- A staged ledger entry. -/
structure LedgerRow where
  number : Nat
  id : String
  time : String
  date : String
  direction : Direction
  amount : String
  real : Binary64
  source : String
  deriving DecidableEq

/-- A staged statement line. Its size is the number of its amount without a sign. -/
structure StatementRow where
  number : Nat
  id : String
  bank : String
  date : String
  direction : Direction
  amount : String
  real : Binary64
  size : Binary64
  source : String
  deriving DecidableEq

namespace StagingScope

def ofWindow (w : Window) : StagingScope := ⟨w.first.text, w.last.text, w.banks⟩

/-- A date is in scope if its text lies between the texts of the first and the last day. -/
def hasDate (scope : StagingScope) (date : String) : Bool := scope.first ≤ date ∧ date ≤ scope.last

/-- A bank is in scope if it is listed, in any letter case. -/
def hasBank (scope : StagingScope) (bank : String) : Bool :=
  scope.banks.any fun b => Text.upper b == Text.upper bank

def hasLedgerRow (scope : StagingScope) (r : LedgerRow) : Bool := scope.hasDate r.date

def hasStatementRow (scope : StagingScope) (r : StatementRow) : Bool :=
  scope.hasDate r.date && scope.hasBank r.bank

end StagingScope

/-- The number by which an amount is matched. -/
def Amount.staged (a : Amount) : Binary64 := a.real.reread

def LedgerRow.ofEntry (number : Nat) (e : LedgerEntry) : LedgerRow :=
  ⟨number, e.id, e.time.text, e.time.date.text, e.direction, e.amount.text, e.amount.staged,
    e.source.text⟩

def StatementRow.ofLine (number : Nat) (l : StatementLine) : StatementRow :=
  ⟨number, l.id, l.bank, l.date.text, l.direction, l.amount.text,
    l.amount.staged, l.amount.staged.abs, l.source.text⟩

/-! ### Reading the texts back -/

/-- Reads back what staging wrote. -/
def readBack {ε α : Type} : Except ε α → Except Failure α
  | .ok a => .ok a
  | .error _ => .error .staging

/-- Reads a staged amount. -/
def stagedAmount (s : String) : Except Failure Amount := readBack (Amount.ofText s)

/-- Reads a staged date. -/
def stagedDate (s : String) : Except Failure Date := readBack (Date.read dateLayout s.toList)

/-- Reads a staged timestamp. -/
def stagedTime (s : String) : Except Failure Timestamp :=
  readBack (Timestamp.read timestampLayout s.toList)

end LedgerMatch
