import LedgerMatch.Csv.Decoder
import LedgerMatch.Entry
import LedgerMatch.Layout.Ledger

/-!
# Statement files

A row of a statement file holds the identifier, date and signed amount of a line. A layout says in
which columns they stand. Two banks have column names of their own; all others share a third layout,
unless a reader with another one is registered for them.
-/

namespace LedgerMatch

/-- The texts that a statement line is made of. -/
structure StatementTexts where
  id : String
  date : String
  amount : String
  deriving DecidableEq, Repr

/-- A layout of statement files: the columns that a row asks for, their names in files without a
header, and the texts that the cells of a row stand for. -/
structure StatementLayout where
  columns : List Csv.Column
  canonicalHeader : List String
  texts : List Csv.Cell → StatementTexts

/-- The layout of three columns that hold the texts as they are. -/
def StatementLayout.ofNames (id date amount : String) : StatementLayout where
  columns := [{ name := id }, { name := date }, { name := amount }]
  canonicalHeader := [id, date, amount]
  texts
    | [.text id, .text date, .text amount] => { id, date, amount }
    | _ => { id := "", date := "", amount := "" }

/-- The kinds of statement files. -/
inductive StatementKind where
  | bca
  | bni
  | general
  deriving DecidableEq, Repr

namespace StatementKind

def code : StatementKind → String
  | bca => "BCA"
  | bni => "BNI"
  | general => "DEFAULT"

/-- The layout of the files of a kind. -/
def layout : StatementKind → StatementLayout
  | bca => .ofNames "BCAUniqueIdentifier" "BCADate" "BCAAmount"
  | bni => .ofNames "BNIUniqueIdentifier" "BNIDate" "BNIAmount"
  | general => .ofNames "UniqueIdentifier" "Date" "Amount"

end StatementKind

/-- The form in which the code of a bank is kept: trimmed and written large. -/
def canonicalBank (code : String) : String := Text.upper (Text.trim code)

/-- Makes a statement line from the texts of a row; the first text that does not fit decides. -/
def StatementLine.ofTexts (source : Path) (bank id date amount : String) :
    Except String StatementLine := do
  if id = "" then throw "missing unique identifier"
  let date ← (Date.ofText date).mapError Failure.message
  let amount ← (Amount.ofText amount).mapError Failure.message
  pure (.ofSigned id date amount bank source)

/-- A reader of the statement files of a bank. -/
structure StatementReader where
  /-- the kind that it says it is of -/
  kind : StatementKind
  bank : String
  layout : StatementLayout
  /-- whether it takes the first record for a header, from what it is told of its files -/
  headerMode : Bool → Bool

namespace StatementReader

/-- The reader of a layout for a bank. -/
def ofLayout (kind : StatementKind) (layout : StatementLayout) (headerMode : Bool → Bool)
    (code : String) : StatementReader where
  kind := kind
  bank := canonicalBank code
  layout := layout
  headerMode := headerMode

/-- The reader of a kind of files for a bank. It believes what it is told of the header. -/
def ofKind (kind : StatementKind) (code : String) : StatementReader :=
  ofLayout kind kind.layout id code

/-- The layout of the rows that become lines of the bank. -/
def rowLayout (reader : StatementReader) (source : Path) : Csv.RowLayout StatementLine where
  columns := reader.layout.columns
  canonicalHeader := reader.layout.canonicalHeader
  convert cells :=
    let texts := reader.layout.texts cells
    .ofExcept (StatementLine.ofTexts source reader.bank texts.id texts.date texts.amount)

/-- Reads a statement file. -/
def read (reader : StatementReader) (hasHeader : Bool) (file : Path) (source : Source) :
    Except Failure (List StatementLine) × List Warning :=
  (reader.rowLayout file).decode (reader.headerMode hasHeader) file source

end StatementReader

end LedgerMatch
