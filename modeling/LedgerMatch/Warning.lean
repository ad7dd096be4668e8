import LedgerMatch.Csv.Columns
import LedgerMatch.Failure

/-!
# Warnings

What a run notes about files and rows that it leaves out.
-/

namespace LedgerMatch

inductive Warning where
  | unreadableRow (file : Path) (line : Nat) (fault : Csv.RowFault)
  | undecodableRow (file : Path) (line : Nat) (fault : Csv.RowFault)
  | decoderCrashed (file : Path) (reason : String)
  | ledgerFileSkipped (file : Path) (failure : Failure)
  | statementFileSkipped (file : Path) (bank : String) (failure : Failure)
  | bankReportNotWritten (bank : String) (failure : Failure)
  deriving DecidableEq

namespace Warning

def message : Warning → String
  | unreadableRow .. => "skipping unreadable row"
  | undecodableRow .. => "skipping undecodable row"
  | decoderCrashed .. => "decoder panicked"
  | ledgerFileSkipped .. => "system file skipped"
  | statementFileSkipped .. => "bank file skipped"
  | bankReportNotWritten .. => "bank report not written"

def file? : Warning → Option Path
  | unreadableRow file .. => some file
  | undecodableRow file .. => some file
  | decoderCrashed file _ => some file
  | ledgerFileSkipped file _ => some file
  | statementFileSkipped file .. => some file
  | bankReportNotWritten .. => none

def bank? : Warning → Option String
  | statementFileSkipped _ bank _ => some bank
  | bankReportNotWritten bank _ => some bank
  | _ => none

def line? : Warning → Option Nat
  | unreadableRow _ line _ => some line
  | undecodableRow _ line _ => some line
  | _ => none

def reason : Warning → String
  | unreadableRow _ _ fault => fault.message
  | undecodableRow _ _ fault => fault.message
  | decoderCrashed _ reason => reason
  | ledgerFileSkipped _ failure => failure.message
  | statementFileSkipped _ _ failure => failure.message
  | bankReportNotWritten _ failure => failure.message

end Warning

end LedgerMatch
