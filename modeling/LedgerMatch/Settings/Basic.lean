import LedgerMatch.Window

/-!
# Settings

What a run is told: the three roots, the window, the number of workers, and switches.
-/

namespace LedgerMatch

/-- Where the staging area lies unless a setting says otherwise. -/
def defaultDatabase : Path := ⟨"reconcile.db"⟩

structure Settings where
  ledgerRoot : Path
  statementRoot : Path
  reportRoot : Path
  banks : List String
  first : Date
  last : Date
  workers : Nat
  /-- input files begin with a header -/
  hasHeader : Bool := true
  /-- staging tables are kept after a run -/
  isDebug : Bool := false
  /-- earlier reports are removed first -/
  clearReports : Bool := false
  databasePath : Path := defaultDatabase
  logLevel : String := "info"
  deriving DecidableEq

namespace Settings

/-- Settings that a run can work with; the first fault decides. -/
def validate (s : Settings) : Except Failure Unit :=
  if s.last < s.first then .error (.settings (.reversed s.first s.last))
  else if s.workers = 0 then .error (.settings .noWorkers)
  else if s.banks.all fun b => Text.trim b == "" then .error (.settings .noBanks)
  else .ok ()

def window (s : Settings) : Except Failure Window := Window.make s.first s.last s.banks

end Settings

end LedgerMatch
