import LedgerMatch.Text.Bytes

/-!
# Records of a CSV file

A file is cut into records at line feeds and carriage returns, and each record into fields at
commas. A field that begins with a quote runs to the next single quote, whatever it holds; a quote
written twice stands for one. Empty lines are no records.
-/

namespace LedgerMatch.Csv

/-- The fields of a record, as they stand in the file. -/
abbrev RawRecord := List Bytes

/-- Where a byte stands in its record. -/
inductive Place where
  | recordStart
  | fieldStart
  | bare
  | quoted
  | quoteSeen
  deriving DecidableEq, Repr

/-- The records, the fields and the bytes read so far, each latest first. -/
structure Cutter where
  records : List RawRecord := []
  fields : List Bytes := []
  field : Bytes := []
  place : Place := .recordStart
  deriving DecidableEq

namespace Cutter

def push (s : Cutter) (place : Place) (b : UInt8) : Cutter :=
  { s with field := b :: s.field, place }

def endField (s : Cutter) : Cutter :=
  { s with fields := s.field.reverse :: s.fields, field := [], place := .fieldStart }

def endRecord (s : Cutter) : Cutter :=
  { records := (s.field.reverse :: s.fields).reverse :: s.records }

/-- A line feed or a carriage return. -/
def isLineEnd (b : UInt8) : Bool := b == 10 || b == 13

def isComma (b : UInt8) : Bool := b == 44

def isQuote (b : UInt8) : Bool := b == 34

/-- A byte that is not inside quotes and not the first of its field. -/
def stepBare (s : Cutter) (b : UInt8) : Cutter :=
  if isComma b then s.endField else if isLineEnd b then s.endRecord else s.push .bare b

/-- The first byte of a field. -/
def stepFirst (s : Cutter) (b : UInt8) : Cutter :=
  if isQuote b then { s with place := .quoted } else s.stepBare b

def step (s : Cutter) (b : UInt8) : Cutter :=
  match s.place with
  | .recordStart => if isLineEnd b then s else s.stepFirst b
  | .fieldStart => s.stepFirst b
  | .bare => s.stepBare b
  | .quoted => if isQuote b then { s with place := .quoteSeen } else s.push .quoted b
  | .quoteSeen => if isQuote b then s.push .quoted b else s.stepBare b

/-- The record that the end of the file closes. -/
def finish (s : Cutter) : Cutter := if s.place = .recordStart then s else s.endRecord

end Cutter

/-- The state after a content. -/
def cut (content : Bytes) : Cutter := (Text.dropMark content).foldl Cutter.step {}

/-- The records of a file that ends after a content. -/
def records (content : Bytes) : List RawRecord := (cut content).finish.records.reverse

/-- The records of a content that breaks off: the last one counts only if its line ended. -/
def closedRecords (content : Bytes) : List RawRecord := (cut content).records.reverse

end LedgerMatch.Csv
