import LedgerMatch.Csv.Columns
import LedgerMatch.Files.Basic
import LedgerMatch.Warning

/-!
# Decoding the rows of a file

Rows that cannot be read or converted are skipped with a warning. Only a header that cannot be
read, a file that breaks off, or a reader or conversion that gives way fails the whole file.
-/

namespace LedgerMatch.Csv

/-- What a conversion makes of the cells of a row. -/
inductive Verdict (α : Type) where
  | keep (value : α)
  | reject (reason : String)
  | crash (reason : String)

/-- What becomes of a row. -/
inductive RowOutcome (α : Type) where
  | kept (value : α)
  | unreadable (fault : RowFault)
  | undecodable (fault : RowFault)
  | crashed (reason : String)

namespace RowOutcome

variable {α : Type}

def kept? : RowOutcome α → Option α
  | kept value => some value
  | _ => none

def crashed? : RowOutcome α → Option String
  | crashed reason => some reason
  | _ => none

/-- The warning about a row that is skipped. -/
def warning? (file : Path) (line : Nat) : RowOutcome α → Option Warning
  | unreadable fault => some (.unreadableRow file line fault)
  | undecodable fault => some (.undecodableRow file line fault)
  | _ => none

end RowOutcome

/-- A file layout: the columns that a row asks for, their names in files without a header, and the
conversion of their cells. -/
structure RowLayout (α : Type) where
  columns : List Column
  canonicalHeader : List String
  convert : List Cell → Verdict α

variable {α : Type}

/-- Reads a row that has as many fields as the first record of its file. -/
def RowLayout.outcome (layout : RowLayout α) (header : List String) (width : Nat)
    (record : RawRecord) : RowOutcome α :=
  if record.length ≠ width then .unreadable (.fieldCount record.length width)
  else match texts? record with
    | none => .unreadable .notText
    | some row =>
        match bindRow layout.columns header row with
        | .error fault => .undecodable fault
        | .ok cells =>
            match layout.convert cells with
            | .keep value => .kept value
            | .reject reason => .undecodable (.rejected reason)
            | .crash reason => .crashed reason

/-- Fails a file whose decoding gave way. -/
def crashFile (file : Path) (reason : String) (warnings : List Warning) :
    Except Failure (List α) × List Warning :=
  let message := "recovered from panic: " ++ reason
  (.error (.undecodable message), warnings ++ [.decoderCrashed file message])

/-- Ends a file behind its rows: their values count only if the file was read to its end. -/
def endFile (file : Path) (values : List α) (warnings : List Warning) :
    Option Interruption → Except Failure (List α) × List Warning
  | none => (.ok values, warnings)
  | some (.fault fault) => (.error (.brokenOff fault), warnings)
  | some (.crash reason) => crashFile file reason warnings

/-- Reads the rows below a header. The first row stands on the given line, and a row that gives way
is the last one looked at. -/
def RowLayout.decodeRows (layout : RowLayout α) (file : Path) (line : Nat) (header : List String)
    (width : Nat) (rows : List RawRecord) (interruption : Option Interruption) :
    Except Failure (List α) × List Warning :=
  let outcomes := rows.map (layout.outcome header width)
  let warnings := (outcomes.takeWhile fun o => o.crashed?.isNone).zipIdx.filterMap
    fun o => o.1.warning? file (line + o.2)
  match outcomes.findSome? RowOutcome.crashed? with
  | some reason => crashFile file reason warnings
  | none => endFile file (outcomes.filterMap RowOutcome.kept?) warnings interruption

/-- Reads the records of a file. -/
def RowLayout.decodeRecords (layout : RowLayout α) (hasHeader : Bool) (file : Path)
    (records : List RawRecord) (interruption : Option Interruption) :
    Except Failure (List α) × List Warning :=
  let unreadable (reason : String) :=
    Failure.undecodable ("cannot read header of '" ++ file.text ++ "': " ++ reason)
  match hasHeader, records with
  | true, [] =>
      match interruption with
      | some (.crash reason) => crashFile file reason []
      | some (.fault fault) => (.error (unreadable fault.message), [])
      | none => (.ok [], [])
  | true, first :: rows =>
      match texts? first with
      | none => (.error (unreadable RowFault.notText.message), [])
      | some header => layout.decodeRows file 2 header first.length rows interruption
  | false, rows =>
      let width := (rows.head?.map List.length).getD 0
      layout.decodeRows file 1 layout.canonicalHeader width rows interruption

/-- Reads an opened file. -/
def RowLayout.decode (layout : RowLayout α) (hasHeader : Bool) (file : Path) (source : Source) :
    Except Failure (List α) × List Warning :=
  match source with
  | .whole content => layout.decodeRecords hasHeader file (records content) none
  | .broken content fault =>
      layout.decodeRecords hasHeader file (closedRecords content) (some (.fault fault))
  | @Source.crashing content reason =>
      layout.decodeRecords hasHeader file (closedRecords content) (some (.crash reason))

end LedgerMatch.Csv
