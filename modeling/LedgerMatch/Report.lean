import LedgerMatch.Csv.Writer
import LedgerMatch.Files.Basic
import LedgerMatch.Schedule
import LedgerMatch.Staging.Query
import LedgerMatch.Warning

/-!
# Reports

Matched rows, ledger entries left over and statement lines left over are written as CSV files below
a report root, the last ones in a file for each bank. A list without rows has no file. A bank whose
file cannot be written is left out with a warning; any other failure ends the report.
-/

namespace LedgerMatch

/-! ### Rows as texts -/

def MatchedRow.header : List String :=
  ["SystemTrxTrxID", "BankTrxUniqueIdentifier", "SystemTrxTransactionTime", "BankTrxDate",
    "SystemTrxType", "Bank", "SystemTrxAmount", "BankTrxAmount"]

def MatchedRow.texts (r : MatchedRow) : List String :=
  [r.ledgerId, r.statementId, r.time.text, r.date.text, r.direction.text, r.bank,
    r.ledgerAmount.text, r.statementAmount.text]

def OpenEntry.header : List String := ["TrxID", "TransactionTime", "Type", "Amount"]

def OpenEntry.texts (r : OpenEntry) : List String :=
  [r.id, r.time.text, r.direction.text, r.amount.text]

def OpenLine.header : List String := ["UniqueIdentifier", "Date", "Bank", "Type", "Amount"]

def OpenLine.texts (r : OpenLine) : List String :=
  [r.id, r.date.text, r.bank, r.direction.text, r.amount.text]

/-! ### Places of the files -/

/-- Where and under which number a report is written, and whether earlier reports go first. -/
structure ReportPlan where
  root : Path
  timestamp : Int
  clear : Bool
  deriving DecidableEq

/-- The files of a report, those of banks by their codes. -/
structure ReportFiles where
  matched : Option Path
  openEntries : Option Path
  openLines : List (String × Path)
  deriving DecidableEq

namespace ReportPlan

def matchedDirectory (plan : ReportPlan) : Path := (plan.root.join ⟨"system"⟩).join ⟨"matched"⟩

def openEntriesDirectory (plan : ReportPlan) : Path :=
  (plan.root.join ⟨"system"⟩).join ⟨"not_matched"⟩

def openLinesDirectory (plan : ReportPlan) : Path :=
  (plan.root.join ⟨"bank"⟩).join ⟨"not_matched"⟩

def directories (plan : ReportPlan) : List Path :=
  [plan.matchedDirectory, plan.openEntriesDirectory, plan.openLinesDirectory]

/-- A file name that carries the number of the report. -/
def fileName (plan : ReportPlan) (stem : String) : Path :=
  ⟨stem ++ "_" ++ toString plan.timestamp ++ ".csv"⟩

def matchedPath (plan : ReportPlan) : Path := plan.matchedDirectory.join (plan.fileName "matched")

def openEntriesPath (plan : ReportPlan) : Path :=
  plan.openEntriesDirectory.join (plan.fileName "not_matched")

def bankPath (plan : ReportPlan) (bank : String) : Path :=
  plan.openLinesDirectory.join (plan.fileName (Text.lower bank))

end ReportPlan

/-! ### Writing -/

section

variable {φ : Type} [FileSystem φ]

/-- Writes rows under a header, if there are any. -/
def writeRows (path : Path) (header : List String) (rows : List (List String)) (fs : φ) :
    Except Failure (Option Path) × φ :=
  if rows = [] then (.ok none, fs)
  else
    match FileSystem.write fs path (Text.encode (Csv.document header rows)) with
    | (.ok (), fs) => (.ok (some path), fs)
    | (.error fault, fs) => (.error (.file fault), fs)

/-- Removes directories, up to the first that cannot be removed. -/
def removeAll (fs : φ) : List Path → Except Failure Unit × φ
  | [] => (.ok (), fs)
  | dir :: dirs =>
      match FileSystem.remove fs dir with
      | (.ok (), fs) => removeAll fs dirs
      | (.error fault, fs) => (.error (.file fault), fs)

/-- The banks of statement lines, each once, in the order of texts. -/
def banksOf (lines : List OpenLine) : List String :=
  ((lines.map fun l => Text.upper l.bank).eraseDups).mergeSort (· ≤ ·)

/-- The lines of a bank. -/
def linesOf (lines : List OpenLine) (bank : String) : List OpenLine :=
  lines.filter fun l => Text.upper l.bank == bank

/-- The file of a bank, or the warning that there is none. -/
def bankFile (bank : String) : Except Failure (Option Path) → Option (String × Path) × List Warning
  | .ok path => (path.map fun p => (bank, p), [])
  | .error failure => (none, [.bankReportNotWritten bank failure])

/-- Writes a file for each bank, side by side. -/
def writeBanks (schedule : Schedule) (plan : ReportPlan) (lines : List OpenLine) (fs : φ) :
    List (String × Path) × List Warning × φ :=
  let banks := banksOf lines
  let (results, fs) := schedule.run
    (banks.map fun bank =>
      writeRows (plan.bankPath bank) OpenLine.header ((linesOf lines bank).map OpenLine.texts)) fs
  let files := (banks.zip results).map fun r => bankFile r.1 r.2
  (files.filterMap (·.1), files.flatMap (·.2), fs)

/-- Writes a report. -/
def writeReport (schedule : Schedule) (plan : ReportPlan) (matched : List MatchedRow)
    (entries : List OpenEntry) (lines : List OpenLine) (fs : φ) :
    Except Failure ReportFiles × List Warning × φ :=
  match if plan.clear then removeAll fs plan.directories else (.ok (), fs) with
  | (.error failure, fs) => (.error failure, [], fs)
  | (.ok (), fs) =>
      match writeRows plan.matchedPath MatchedRow.header (matched.map MatchedRow.texts) fs with
      | (.error failure, fs) => (.error failure, [], fs)
      | (.ok matchedFile, fs) =>
          let rows := entries.map OpenEntry.texts
          match writeRows plan.openEntriesPath OpenEntry.header rows fs with
          | (.error failure, fs) => (.error failure, [], fs)
          | (.ok entriesFile, fs) =>
              let (files, warnings, fs) := writeBanks schedule plan lines fs
              (.ok ⟨matchedFile, entriesFile, files⟩, warnings, fs)

end

end LedgerMatch
