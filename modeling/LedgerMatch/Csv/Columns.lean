import LedgerMatch.Csv.Record
import LedgerMatch.Text.Blank
import LedgerMatch.Text.Integer

/-!
# Columns

A record is read by the names in a header. A row type asks for some columns, each a text or a whole
number; columns that it does not ask for are passed over.
-/

namespace LedgerMatch.Csv

/-- Why a row is skipped. -/
inductive RowFault where
  | fieldCount (found expected : Nat)
  | notText
  | missingField (name : String)
  | duplicateField (name : String)
  | rowEnded
  | integer (index : Nat) (fault : Text.IntegerFault)
  | rejected (reason : String)
  deriving DecidableEq, Repr

def RowFault.message : RowFault → String
  | fieldCount found expected =>
      "CSV error: found record with " ++ toString found ++ " fields, but the previous record has "
        ++ toString expected ++ " fields"
  | notText => "CSV parse error: invalid utf-8"
  | missingField name => "CSV deserialize error: missing field `" ++ name ++ "`"
  | duplicateField name => "CSV deserialize error: duplicate field `" ++ name ++ "`"
  | rowEnded => "CSV deserialize error: expected field, but got end of row"
  | integer index fault =>
      "CSV deserialize error: field " ++ toString index ++ ": " ++ fault.message
  | rejected reason => reason

/-! ### Binding a row to a header -/

inductive CellKind where
  | text
  | integer
  deriving DecidableEq, Repr

inductive Cell where
  | text (s : String)
  | integer (n : Int)
  deriving DecidableEq, Repr

/-- A column that a row type asks for. -/
structure Column where
  name : String
  kind : CellKind := .text
  deriving DecidableEq, Repr

/-- Reads the field with the given index as a cell. -/
def CellKind.read (kind : CellKind) (index : Nat) (field : String) : Except RowFault Cell :=
  match kind with
  | text => .ok (.text field)
  | integer =>
      match Text.readInteger field.toList with
      | .ok n => .ok (.integer n)
      | .error fault => .error (.integer index fault)

/-- Reads the fields of a row under a header, from left to right. -/
def collect (columns : List Column) (index : Nat) (found : List (String × Cell)) :
    List String → List String → Except RowFault (List (String × Cell))
  | [], _ => .ok found
  | name :: names, row =>
      match columns.find? (·.name == name) with
      | none =>
          match row with
          | [] => .error .rowEnded
          | _ :: row => collect columns (index + 1) found names row
      | some column =>
          if found.any (·.1 == name) then .error (.duplicateField name)
          else match row with
            | [] => .error .rowEnded
            | field :: row =>
                match column.kind.read index field with
                | .error fault => .error fault
                | .ok cell => collect columns (index + 1) (found ++ [(name, cell)]) names row

/-- Puts the cells found into the order of the columns. -/
def arrange (found : List (String × Cell)) : List Column → Except RowFault (List Cell)
  | [] => .ok []
  | column :: columns =>
      match found.lookup column.name with
      | none => .error (.missingField column.name)
      | some cell => (arrange found columns).map (cell :: ·)

/-- The cells of a row in the order of the columns. -/
def bindRow (columns : List Column) (header row : List String) : Except RowFault (List Cell) :=
  (collect columns 0 [] header row).bind fun found => arrange found columns

/-- The trimmed texts of a record, if all its fields are texts. -/
def texts? (record : RawRecord) : Option (List String) :=
  record.mapM fun field => (Text.decode? field).map Text.trim

end LedgerMatch.Csv
