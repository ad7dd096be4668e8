import LedgerMatch.Csv.Decoder
import LedgerMatch.Entry

/-!
# Ledger files

A row of a ledger file holds the identifier, time, direction and amount of an entry. The amount has
no sign, since the direction stands beside it.
-/

namespace LedgerMatch

/-- The column names of a ledger file, in their order. -/
def ledgerHeader : List String := ["TrxID", "TransactionTime", "Type", "Amount"]

/-- Makes an entry from the texts of a row; the first text that does not fit decides. -/
def LedgerEntry.ofTexts (source : Path) (id time direction amount : String) :
    Except String LedgerEntry := do
  if id = "" then throw "missing TrxID"
  let time ← (Timestamp.ofText time).mapError Failure.message
  let direction ← (Direction.ofText direction).mapError Failure.message
  let amount ← (Amount.ofText amount).mapError Failure.message
  if amount.isNegative then throw ("negative system amount " ++ amount.text)
  pure ⟨id, time, direction, amount, source⟩

/-- Keeps what could be made of a row. -/
def Csv.Verdict.ofExcept {α : Type} : Except String α → Csv.Verdict α
  | .ok a => .keep a
  | .error reason => .reject reason

/-- The layout of ledger files. -/
def ledgerLayout (source : Path) : Csv.RowLayout LedgerEntry where
  columns := ledgerHeader.map fun name => { name }
  canonicalHeader := ledgerHeader
  convert
    | [.text id, .text time, .text direction, .text amount] =>
        .ofExcept (LedgerEntry.ofTexts source id time direction amount)
    | _ => .reject "not a ledger row"

/-- Reads a ledger file. -/
def readLedger (hasHeader : Bool) (file : Path) (source : Source) :
    Except Failure (List LedgerEntry) × List Warning :=
  (ledgerLayout file).decode hasHeader file source

end LedgerMatch
