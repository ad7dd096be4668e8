import LedgerMatch.Discovery
import LedgerMatch.Layout.Registry
import LedgerMatch.Schedule

/-!
# Intake

All ledger and statement files are read, and the records inside the window are kept. A file that
fails is left out as a whole, with a warning.
-/

namespace LedgerMatch

/-- The records of a run and the range of its ledger amounts. -/
structure Intake where
  entries : List LedgerEntry
  lines : List StatementLine
  smallest : Amount
  largest : Amount
  deriving DecidableEq

/-- Reads files side by side. The records of the files that could be read follow each other in the
order of the files. -/
def readAll {ι α : Type} (schedule : Schedule)
    (read : ι → Except Failure (List α) × List Warning) (files : List ι) (warnings : List Warning) :
    List α × List Warning :=
  let task (file : ι) (log : List Warning) : Except Failure (List α) × List Warning :=
    let (result, own) := read file
    (result, log ++ own)
  let (results, log) := schedule.run (files.map task) warnings
  (results.flatMap fun
    | .ok records => records
    | .error _ => [], log)

section

variable {φ : Type} [FileSystem φ]

/-- Notes that a file which failed is left out. -/
def noteFailure {α : Type} (note : Failure → Warning) :
    Except Failure (List α) × List Warning → Except Failure (List α) × List Warning
  | (.ok records, warnings) => (.ok records, warnings)
  | (.error failure, warnings) => (.error failure, warnings ++ [note failure])

/-- Reads the ledger file under a path. -/
def openLedgerFile (fs : φ) (hasHeader : Bool) (file : Path) :
    Except Failure (List LedgerEntry) × List Warning :=
  match FileSystem.openFile fs file with
  | .error fault => (.error (.file fault), [])
  | .ok source => readLedger hasHeader file source

/-- Reads a statement file by the reader for its bank. -/
def openStatementFile (fs : φ) (registry : Registry) (hasHeader : Bool) (file : StatementFile) :
    Except Failure (List StatementLine) × List Warning :=
  match FileSystem.openFile fs file.path with
  | .error fault => (.error (.file fault), [])
  | .ok source =>
      match registry.reader file.bank with
      | .error failure => (.error failure, [])
      | .ok reader => reader.read hasHeader file.path source

/-- Reads a ledger file and notes if it is left out. -/
def readLedgerFile (fs : φ) (hasHeader : Bool) (file : Path) :
    Except Failure (List LedgerEntry) × List Warning :=
  noteFailure (.ledgerFileSkipped file) (openLedgerFile fs hasHeader file)

/-- Reads a statement file and notes if it is left out. -/
def readStatementFile (fs : φ) (registry : Registry) (hasHeader : Bool) (file : StatementFile) :
    Except Failure (List StatementLine) × List Warning :=
  noteFailure (.statementFileSkipped file.path file.bank)
    (openStatementFile fs registry hasHeader file)

/-- The largest amount of entries, at least zero. -/
def largestAmount (entries : List LedgerEntry) : Amount :=
  entries.foldl (fun largest e => largest.larger e.amount) Amount.zero

/-- Keeps the records inside a window. -/
def Intake.inWindow (w : Window) (entries : List LedgerEntry) (lines : List StatementLine) :
    Intake :=
  let kept := entries.filter w.keepsEntry
  { entries := kept, lines := lines.filter w.keepsLine, smallest := .zero,
    largest := largestAmount kept }

/-- Reads all files below two roots. It fails only if a root cannot be listed. -/
def Intake.read (fs : φ) (registry : Registry) (schedule : Schedule) (hasHeader : Bool)
    (ledgerRoot statementRoot : Path) (w : Window) : Except Failure Intake × List Warning :=
  match ledgerFiles fs ledgerRoot with
  | .error failure => (.error failure, [])
  | .ok ledger =>
      match statementFiles fs statementRoot w with
      | .error failure => (.error failure, [])
      | .ok statements =>
          let (entries, log) := readAll schedule (readLedgerFile fs hasHeader) ledger []
          let (lines, log) :=
            readAll schedule (readStatementFile fs registry hasHeader) statements log
          (.ok (.inWindow w entries lines), log)

end

end LedgerMatch
