import LedgerMatch.Amount.Sum
import LedgerMatch.Staging.Tables

/-!
# What the staging tables say

The summary of the tables, the matched pairs of rows, and the rows left over on either side, each
in a fixed order. Texts are read back on the way.
-/

namespace LedgerMatch

/-- Counts of rows and sums of ledger amounts. -/
structure Summary where
  ledgerCount : Nat
  matchedCount : Nat
  openLedgerCount : Nat
  ledgerSum : Amount
  matchedSum : Amount
  openLedgerSum : Amount
  statementCount : Nat
  openStatementCount : Nat
  deriving DecidableEq

/-- A ledger entry and the statement line it is matched with. -/
structure MatchedRow where
  ledgerId : String
  statementId : String
  time : Timestamp
  date : Date
  direction : Direction
  bank : String
  ledgerAmount : Amount
  statementAmount : Amount
  deriving DecidableEq

/-- A ledger entry left over. -/
structure OpenEntry where
  id : String
  time : Timestamp
  direction : Direction
  amount : Amount
  deriving DecidableEq

/-- A statement line left over. -/
structure OpenLine where
  id : String
  date : Date
  bank : String
  direction : Direction
  amount : Amount
  deriving DecidableEq

namespace Tables

/-! ### Matched rows -/

/-- The rows in scope that a pair joins. -/
def joined? (t : Tables) (p : Pair) : Option (LedgerRow × StatementRow) :=
  match t.scopedLedger.find? (·.number == p.ledger),
    t.scopedStatements.find? (·.number == p.statement) with
  | some l, some s => some (l, s)
  | _, _ => none

/-- The joined rows in the order of their ledger rows. -/
def joinedRows (t : Tables) : List (LedgerRow × StatementRow) :=
  (t.pairs.filterMap t.joined?).mergeSort fun a b => a.1.le b.1

def readMatched (row : LedgerRow × StatementRow) : Except Failure MatchedRow := do
  let time ← stagedTime row.1.time
  let date ← stagedDate row.2.date
  let ledgerAmount ← stagedAmount row.1.amount
  let statementAmount ← stagedAmount row.2.amount
  pure ⟨row.1.id, row.2.id, time, date, row.1.direction, row.2.bank, ledgerAmount, statementAmount⟩

def matched (t : Tables) : Except Failure (List MatchedRow) := t.joinedRows.mapM readMatched

/-! ### Rows left over -/

def readOpenEntry (r : LedgerRow) : Except Failure OpenEntry := do
  let time ← stagedTime r.time
  let amount ← stagedAmount r.amount
  pure ⟨r.id, time, r.direction, amount⟩

def openEntries (t : Tables) : Except Failure (List OpenEntry) :=
  (t.openLedger.mergeSort LedgerRow.le).mapM readOpenEntry

def readOpenLine (r : StatementRow) : Except Failure OpenLine := do
  let date ← stagedDate r.date
  let amount ← stagedAmount r.amount
  pure ⟨r.id, date, r.bank, r.direction, amount⟩

/-- Statement rows left over are listed by bank, then by identifier, then by number. -/
def bankLe (a b : StatementRow) : Bool := a.bank < b.bank || (a.bank == b.bank && a.le b)

def openLines (t : Tables) : Except Failure (List OpenLine) :=
  (t.openStatements.mergeSort bankLe).mapM readOpenLine

/-! ### The summary -/

/-- The pairs whose statement rows are in scope. -/
def scopedPairs (t : Tables) : List Pair :=
  let statements := t.scopedStatements
  t.pairs.filter fun p => statements.any (·.number == p.statement)

/-- A ledger row once for each of its pairs, or once without a pair. -/
def withPairs (pairs : List Pair) (r : LedgerRow) : List (LedgerRow × Bool) :=
  match pairs.filter (·.ledger == r.number) with
  | [] => [(r, false)]
  | own => own.map fun _ => (r, true)

/-- The ledger rows in scope with their pairs. -/
def pairedLedger (t : Tables) : List (LedgerRow × Bool) :=
  t.scopedLedger.flatMap (withPairs t.scopedPairs)

/-- Adds an amount to a sum. -/
def addTerm (sum : Amount) (term : Amount) : Except Failure Amount :=
  match sum.add? term with
  | some total => .ok total
  | none => .error (.sum term)

/-- The sums of all ledger rows, of the matched and of the open ones, so far. -/
structure Sums where
  ledger : Amount := .zero
  matched : Amount := .zero
  openLedger : Amount := .zero
  deriving DecidableEq

/-- Adds the amount of a ledger row to the sums it belongs to. -/
def Sums.add (sums : Sums) (row : String × Bool) : Except Failure Sums := do
  let amount ← stagedAmount row.1
  let ledger ← addTerm sums.ledger amount
  if row.2 then
    let matched ← addTerm sums.matched amount
    pure { sums with ledger, matched }
  else
    let openLedger ← addTerm sums.openLedger amount
    pure { sums with ledger, openLedger }

def sums (rows : List (LedgerRow × Bool)) : Except Failure Sums :=
  (rows.map fun r => (r.1.amount, r.2)).foldlM Sums.add {}

def summary (t : Tables) : Except Failure Summary := do
  let rows := t.pairedLedger
  let sums ← sums rows
  let pairs := t.scopedPairs
  let statements := t.scopedStatements
  let matchedCount := (rows.filter (·.2)).length
  pure {
    ledgerCount := rows.length
    matchedCount
    openLedgerCount := rows.length - matchedCount
    ledgerSum := sums.ledger
    matchedSum := sums.matched
    openLedgerSum := sums.openLedger
    statementCount := statements.length
    openStatementCount :=
      (statements.filter fun r => !pairs.any (·.statement == r.number)).length }

end Tables

end LedgerMatch
