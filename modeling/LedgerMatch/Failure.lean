import LedgerMatch.Amount.Reader
import LedgerMatch.Calendar.Reader
import LedgerMatch.Direction
import LedgerMatch.Path

/-!
# Failures

All ways in which an operation can fail, by cause. The wording of each stands in `Failure.message`
and nowhere else.
-/

namespace LedgerMatch

/-- A refusal of a directory tree. -/
inductive TreeFault where
  | notFound
  | exists
  | notADirectory
  | isADirectory
  | notEmpty
  | nameTooLong
  | invalidArgument
  | zeroCharacter
  deriving DecidableEq, Repr

/-- Why a file could not be listed, read, written or removed. -/
inductive FileFault where
  | missing (path : Path)
  | denied (operation : String)
  | notText
  | tree (fault : TreeFault)
  deriving DecidableEq, Repr

def FileFault.message : FileFault → String
  | missing path => "file not found: " ++ path.text
  | denied operation => "denied: " ++ operation
  | notText => "invalid utf-8"
  | tree .notFound => "No such file or directory (os error 2)"
  | tree .exists => "File exists (os error 17)"
  | tree .notADirectory => "Not a directory (os error 20)"
  | tree .isADirectory => "Is a directory (os error 21)"
  | tree .notEmpty => "Directory not empty (os error 39)"
  | tree .nameTooLong => "File name too long (os error 36)"
  | tree .invalidArgument => "Invalid argument (os error 22)"
  | tree .zeroCharacter => "file name contained an unexpected NUL byte"

/-- A stage of a run. -/
inductive Stage where
  | prepare
  | intake
  | stageLedger
  | stageStatements
  | matching
  | reporting
  | discard
  deriving DecidableEq, Repr

/-- The announced label of a stage. -/
def Stage.label : Stage → String
  | prepare => "[1/7] Pre Process Generate Reconciliation..."
  | intake => "[2/7] Parse System/Bank Trx Files..."
  | stageLedger => "[3/7] Import System Trx to DB..."
  | stageStatements => "[4/7] Import Bank Trx to DB..."
  | matching => "[5/7] Mapping Reconciliation Data..."
  | reporting => "[6/7] Generate Reconciliation Report Files..."
  | discard => "[7/7] Post Process Generate Reconciliation..."

/-- Why settings are refused. -/
inductive SettingsFault where
  | reversed (first last : Date)
  | noWorkers
  | noBanks
  | missingField (name : String)
  | malformed
  deriving DecidableEq

def SettingsFault.message : SettingsFault → String
  | reversed first last => "from_date " ++ first.text ++ " is after to_date " ++ last.text
  | noWorkers => "number_worker must be at least 1"
  | noBanks => "list_bank is empty"
  | missingField name => "missing field `" ++ name ++ "`"
  | malformed => "malformed settings"

inductive Failure where
  /-- a whole file could not be decoded -/
  | undecodable (reason : String)
  /-- no reader is registered for the bank, and none for all banks -/
  | noReader (bank : String)
  | file (fault : FileFault)
  /-- a file broke off while its rows were read -/
  | brokenOff (fault : FileFault)
  /-- the staging area has no tables, or refuses a row -/
  | staging
  /-- a document does not have the fields of a record -/
  | document
  | settings (fault : SettingsFault)
  | amount (text : String) (fault : AmountFault)
  /-- a sum cannot hold one more amount -/
  | sum (term : Amount)
  | date (text : String) (fault : CalendarFault)
  | direction (text : String)
  | stage (stage : Stage) (source : Failure)
  | cancelled
  deriving DecidableEq

namespace Failure

def message : Failure → String
  | undecodable reason => "Parse failed: " ++ reason
  | noReader bank =>
      "Bank parser for '" ++ bank ++ "' not found and no default parser is registered"
  | file fault => "I/O error: " ++ fault.message
  | brokenOff fault => "CSV error: " ++ fault.message
  | staging => "Staging store error"
  | document => "JSON error"
  | settings fault => "Configuration error: " ++ fault.message
  | amount text fault => "Invalid amount: '" ++ text ++ "': " ++ fault.message
  | sum term => "Invalid amount: sum overflow at " ++ term.text
  | date text fault => "Invalid date: '" ++ text ++ "': " ++ fault.message
  | direction text => "Invalid transaction type: " ++ text
  | stage s source => "Stage '" ++ s.label ++ "' failed: " ++ source.message
  | cancelled => "Reconciliation run cancelled"

end Failure

/-! ### Reading values with blanks around them -/

/-- Reads an amount. -/
def Amount.ofText (s : String) : Except Failure Amount :=
  match ofChars (Text.trim s).toList with
  | .ok a => .ok a
  | .error fault => .error (.amount (Text.trim s) fault)

/-- Reads a date. -/
def Date.ofText (s : String) : Except Failure Date :=
  match read dateLayout (Text.trim s).toList with
  | .ok d => .ok d
  | .error fault => .error (.date (Text.trim s) fault)

/-- Reads a timestamp. -/
def Timestamp.ofText (s : String) : Except Failure Timestamp :=
  match read timestampLayout (Text.trim s).toList with
  | .ok t => .ok t
  | .error fault => .error (.date (Text.trim s) fault)

/-- Reads a direction. -/
def Direction.ofText (s : String) : Except Failure Direction :=
  match ofText? s with
  | some d => .ok d
  | none => .error (.direction s)

end LedgerMatch
