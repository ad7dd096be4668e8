import LedgerMatch.Value
import LedgerMatch.Window

/-!
# Records as documents

Directions, ledger entries, statement lines and windows are written as documents and read back.
Reading takes what is written as it stands: texts are not trimmed, and the parts of a record are not
checked against each other.
-/

namespace LedgerMatch

/-- A result, or the refusal of the whole document. -/
def documentResult {α : Type} : Option α → Except Failure α
  | some a => .ok a
  | none => .error .document

/-! ### Parts of records -/

/-- A word, or a table whose only field bears the word and holds nothing. -/
def Direction.ofValue? : Value → Option Direction
  | .text s => ofWord? s
  | .table [(s, .null)] => ofWord? s
  | _ => none

/-- A text or a number. -/
def Amount.ofValue? : Value → Option Amount
  | .text s => (ofChars s.toList).toOption
  | .integer n => (plain (toString n).toList).toOption
  | .real x => (plain x.text.toList).toOption
  | _ => none

def Date.ofValue? (v : Value) : Option Date :=
  v.text?.bind fun s => (Date.read looseDateLayout s.toList).toOption

def Timestamp.ofValue? (v : Value) : Option Timestamp :=
  v.text?.bind fun s => (Timestamp.read looseTimestampLayout s.toList).toOption

def Path.ofValue? (v : Value) : Option Path := v.text?.map Path.mk

/-! ### Whole records -/

namespace LedgerEntry

/-- The field names of an entry, in their order. -/
def fieldNames : List String := ["trx_id", "transaction_time", "trx_type", "amount", "source_file"]

def toValue (e : LedgerEntry) : Value :=
  .table (fieldNames.zip [.text e.id, .text (String.ofList (e.time.chars 'T')),
    .text e.direction.text, .text e.amount.text, .text e.source.text])

def ofFields? : List Value → Option LedgerEntry
  | [id, time, direction, amount, source] => do
      some ⟨← id.text?, ← Timestamp.ofValue? time, ← Direction.ofValue? direction,
        ← Amount.ofValue? amount, ← Path.ofValue? source⟩
  | _ => none

def ofValue (v : Value) : Except Failure LedgerEntry :=
  documentResult ((v.fields? fieldNames).bind ofFields?)

end LedgerEntry

namespace StatementLine

/-- The field names of a line, in their order. -/
def fieldNames : List String :=
  ["unique_identifier", "date", "trx_type", "bank", "amount", "source_file"]

def toValue (l : StatementLine) : Value :=
  .table (fieldNames.zip [.text l.id, .text l.date.text, .text l.direction.text, .text l.bank,
    .text l.amount.text, .text l.source.text])

def ofFields? : List Value → Option StatementLine
  | [id, date, direction, bank, amount, source] => do
      some ⟨← id.text?, ← Date.ofValue? date, ← Direction.ofValue? direction, ← bank.text?,
        ← Amount.ofValue? amount, ← Path.ofValue? source⟩
  | _ => none

def ofValue (v : Value) : Except Failure StatementLine :=
  documentResult ((v.fields? fieldNames).bind ofFields?)

end StatementLine

namespace Window

/-- The field names of a window, in their order. -/
def fieldNames : List String := ["from_date", "to_date", "accepted_banks"]

def toValue (w : Window) : Value :=
  .table (fieldNames.zip [.text w.first.text, .text w.last.text, .list (w.banks.map Value.text)])

def ofFields? : List Value → Option Window
  | [first, last, banks] => do
      some ⟨← Date.ofValue? first, ← Date.ofValue? last, ← banks.texts?⟩
  | _ => none

/-- Reads a window, whichever of its days comes first. -/
def ofValue (v : Value) : Except Failure Window :=
  documentResult ((v.fields? fieldNames).bind ofFields?)

end Window

namespace Direction

def toValue (d : Direction) : Value := .text d.text

def ofValue (v : Value) : Except Failure Direction := documentResult (ofValue? v)

end Direction

end LedgerMatch
