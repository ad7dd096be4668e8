import LedgerMatch.Partition
import LedgerMatch.Staging.Matching

/-!
# Staging tables

The tables hold the scope, the staged rows of both sides in the order they were staged, and the
pairs made so far. A row needs a finite number, and takes part in at most one pair.
-/

namespace LedgerMatch

structure Tables where
  scope : StagingScope
  ledger : List LedgerRow := []
  statements : List StatementRow := []
  pairs : List Pair := []
  deriving DecidableEq

namespace Tables

/-- Tables without rows, for a window. -/
def fresh (w : Window) : Tables := { scope := .ofWindow w }

/-! ### Staging records -/

/-- A number that a row can hold. -/
def isFinite : Binary64 → Bool
  | .finite .. => true
  | _ => false

/-- Adds ledger rows, numbered on from the last one. -/
def addEntries (t : Tables) (entries : List LedgerEntry) : Except Failure Tables :=
  let rows := entries.zipIdx.map fun e => LedgerRow.ofEntry (t.ledger.length + 1 + e.2) e.1
  if rows.all fun r => isFinite r.real then .ok { t with ledger := t.ledger ++ rows }
  else .error .staging

/-- Adds statement rows, numbered on from the last one. -/
def addLines (t : Tables) (lines : List StatementLine) : Except Failure Tables :=
  let rows := lines.zipIdx.map fun l => StatementRow.ofLine (t.statements.length + 1 + l.2) l.1
  if rows.all fun r => isFinite r.real then .ok { t with statements := t.statements ++ rows }
  else .error .staging

/-- Runs operations one after the other, up to the first that fails. What the earlier ones did
stays. -/
def sequence {α : Type} (op : Tables → α → Except Failure Tables) (t : Tables) :
    List α → Except Failure Unit × Tables
  | [] => (.ok (), t)
  | a :: rest =>
      match op t a with
      | .ok t => sequence op t rest
      | .error failure => (.error failure, t)

/-- Adds ledger entries in so many chunks. -/
def importEntries (t : Tables) (entries : List LedgerEntry) (chunks : Nat) :
    Except Failure Unit × Tables :=
  t.sequence addEntries ((indexRanges entries.length chunks).map (slice entries))

/-- Adds statement lines in so many chunks. -/
def importLines (t : Tables) (lines : List StatementLine) (chunks : Nat) :
    Except Failure Unit × Tables :=
  t.sequence addLines ((indexRanges lines.length chunks).map (slice lines))

/-! ### Rows in scope -/

def scopedLedger (t : Tables) : List LedgerRow := t.ledger.filter t.scope.hasLedgerRow

def scopedStatements (t : Tables) : List StatementRow :=
  t.statements.filter t.scope.hasStatementRow

def hasLedgerPair (t : Tables) (number : Nat) : Bool := t.pairs.any (·.ledger == number)

def hasStatementPair (t : Tables) (number : Nat) : Bool := t.pairs.any (·.statement == number)

/-- The ledger rows in scope without a pair. -/
def openLedger (t : Tables) : List LedgerRow :=
  t.scopedLedger.filter fun r => !t.hasLedgerPair r.number

/-- The statement rows in scope without a pair. -/
def openStatements (t : Tables) : List StatementRow :=
  t.scopedStatements.filter fun r => !t.hasStatementPair r.number

/-! ### Making pairs -/

/-- Adds a pair of existing rows that have no pair yet. -/
def addPair (t : Tables) (p : Pair) : Except Failure Tables :=
  if t.ledger.any (·.number == p.ledger) && t.statements.any (·.number == p.statement)
      && !t.hasLedgerPair p.ledger && !t.hasStatementPair p.statement then
    .ok { t with pairs := t.pairs ++ [p] }
  else .error .staging

/-- Matches the open rows whose amounts lie in a bucket. -/
def matchBucket (t : Tables) (b : AmountBucket) : Except Failure Tables :=
  (matchRows (t.openLedger.filter fun r => b.contains r.real)
    (t.openStatements.filter fun r => b.contains r.size)).foldlM addPair t

/-- Matches the open rows from a smallest amount on, in so many buckets. -/
def matchAmounts (t : Tables) (smallest largest : Amount) (buckets : Nat) :
    Except Failure Unit × Tables :=
  t.sequence matchBucket (amountBuckets smallest.real largest.real buckets)

theorem sequence_cons_ok {α : Type} {op : Tables → α → Except Failure Tables} {t u : Tables} {a : α}
    {rest : List α} (h : op t a = .ok u) : t.sequence op (a :: rest) = u.sequence op rest := by
  simp [sequence, h]

end Tables

end LedgerMatch
