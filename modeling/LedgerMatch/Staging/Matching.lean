import LedgerMatch.Staging.Row

/-!
# Matching rows

Ledger rows and statement rows of the same amount, the same date and opposite directions form a
group. Within a group the rows of each side stand in a fixed order, and the first is matched with
the first, the second with the second, as far as both sides reach.
-/

namespace LedgerMatch

/-- What two rows must share to be matched; statement rows count with the opposite direction. -/
structure MatchKey where
  amount : Binary64
  date : String
  direction : Direction
  deriving DecidableEq

/-- A ledger row and the statement row it is matched with, by their numbers. -/
structure Pair where
  ledger : Nat
  statement : Nat
  deriving DecidableEq, Repr

def LedgerRow.key (r : LedgerRow) : MatchKey := ⟨r.real, r.date, r.direction⟩

def StatementRow.key (r : StatementRow) : MatchKey := ⟨r.size, r.date, r.direction.opposite⟩

/-- Ledger rows are ordered by identifier, then by number. -/
def LedgerRow.le (a b : LedgerRow) : Bool := a.id < b.id || (a.id == b.id && a.number ≤ b.number)

/-- Statement rows are ordered by identifier, then by number. -/
def StatementRow.le (a b : StatementRow) : Bool :=
  a.id < b.id || (a.id == b.id && a.number ≤ b.number)

/-- Gives each row its place among the rows of its group, after the groups of earlier rows. -/
def rankAfter {α : Type} (key : α → MatchKey) (earlier : List MatchKey) : List α → List (α × Nat)
  | [] => []
  | r :: rest => (r, earlier.count (key r)) :: rankAfter key (key r :: earlier) rest

/-- Gives each row its place among the rows of its group. -/
def rank {α : Type} (key : α → MatchKey) (rows : List α) : List (α × Nat) := rankAfter key [] rows

/-- The pairs of rows that have the same place in the same group. -/
def matchRows (ledger : List LedgerRow) (statements : List StatementRow) : List Pair :=
  let ranked := rank StatementRow.key (statements.mergeSort StatementRow.le)
  (rank LedgerRow.key (ledger.mergeSort LedgerRow.le)).filterMap fun l =>
    (ranked.find? fun s => s.1.key == l.1.key && s.2 == l.2).map fun s =>
      ⟨l.1.number, s.1.number⟩

end LedgerMatch
