import LedgerMatch.Calendar.Timestamp
import LedgerMatch.Text.Blank

/-!
# Reading dates and timestamps

A layout lists what a text has to hold from left to right. Blanks are skipped before each number.
Reading stops at the first place that does not fit; whether the day exists is asked at the end.
-/

namespace LedgerMatch

-- Powers of whole numbers are the core ones, whatever else is imported.
attribute [local instance (2000)] instPowNat

/-- Why a text is not a date or a timestamp. -/
inductive CalendarFault where
  | tooShort
  | invalid
  | outOfRange
  | trailing
  deriving DecidableEq, Repr

def CalendarFault.message : CalendarFault → String
  | tooShort => "premature end of input"
  | invalid => "input contains invalid characters"
  | outOfRange => "input is out of range"
  | trailing => "trailing input"

/-- A number in a date or timestamp. -/
inductive CalendarField where
  | year
  | month
  | day
  | hour
  | minute
  | second
  deriving DecidableEq, Repr

/-- A part of a layout: a number, an optional fraction of a second, a fixed character, or any
blanks. -/
inductive LayoutItem where
  | number (field : CalendarField)
  | fraction
  | mark (c : Char)
  | blanks
  deriving DecidableEq, Repr

/-- The numbers read so far. -/
structure CalendarParts where
  year : Int := 0
  month : Nat := 0
  day : Nat := 0
  hour : Nat := 0
  minute : Nat := 0
  second : Nat := 0
  billionths : Nat := 0
  deriving DecidableEq, Repr

namespace CalendarParts

/-- Sets a number that lies in the range of its field. -/
def set (p : CalendarParts) (field : CalendarField) (n : Int) :
    Except CalendarFault CalendarParts :=
  let between (low high : Int) (q : CalendarParts) :=
    if low ≤ n ∧ n ≤ high then Except.ok q else .error .outOfRange
  match field with
  | .year => between (-2147483648) 2147483647 { p with year := n }
  | .month => between 1 12 { p with month := n.toNat }
  | .day => between 1 31 { p with day := n.toNat }
  | .hour => between 0 23 { p with hour := n.toNat }
  | .minute => between 0 59 { p with minute := n.toNat }
  | .second => between 0 60 { p with second := n.toNat }

def date (p : CalendarParts) : Except CalendarFault Date :=
  match Date.ofParts? p.year p.month p.day with
  | some d => .ok d
  | none => .error .outOfRange

def timestamp (p : CalendarParts) : Except CalendarFault Timestamp :=
  match Date.ofParts? p.year p.month p.day with
  | none => .error .outOfRange
  | some d =>
      match Timestamp.ofParts? d p.hour p.minute p.second p.billionths with
      | some t => .ok t
      | none => .error .outOfRange

end CalendarParts

namespace CalendarField

/-- Reads the digits at the front of a text, at most as many as a width allows. -/
def digits (width : Option Nat) (cs : List Char) : Except CalendarFault (Nat × List Char) :=
  if cs = [] then .error .tooShort
  else
    let front := (match width with | some w => cs.take w | none => cs).takeWhile Text.isDigit
    if front = [] then .error .invalid
    else .ok (Text.digitsValue front, cs.drop front.length)

/-- Reads a number: a year has up to four digits, or any number of them behind a sign; the other
fields have one or two digits. -/
def read (field : CalendarField) (cs : List Char) : Except CalendarFault (Int × List Char) :=
  match field, cs with
  | year, '-' :: rest => (digits none rest).map fun r => (-(r.1 : Int), r.2)
  | year, '+' :: rest => (digits none rest).map fun r => ((r.1 : Int), r.2)
  | year, rest => (digits (some 4) rest).map fun r => ((r.1 : Int), r.2)
  | _, rest => (digits (some 2) rest).map fun r => ((r.1 : Int), r.2)

end CalendarField

/-- Reads a point and the digits of a fraction, in billionths. Digits behind the ninth are passed
over. Without a point there is no fraction. -/
def readFraction : List Char → Except CalendarFault (Nat × List Char)
  | '.' :: cs =>
      match CalendarField.digits (some 9) cs with
      | .error fault => .error fault
      | .ok (n, rest) =>
          .ok (n * 10 ^ (9 - (cs.length - rest.length)), rest.dropWhile Text.isDigit)
  | cs => .ok (0, cs)

/-- Reads a text along a layout to its end. -/
def readLayout (p : CalendarParts) :
    List LayoutItem → List Char → Except CalendarFault CalendarParts
  | [], [] => .ok p
  | [], _ :: _ => .error .trailing
  | .blanks :: items, cs => readLayout p items (Text.skipBlanks cs)
  | .mark _ :: _, [] => .error .tooShort
  | .mark m :: items, c :: cs => if c = m then readLayout p items cs else .error .invalid
  | .fraction :: items, cs =>
      match readFraction cs with
      | .error fault => .error fault
      | .ok (n, rest) => readLayout { p with billionths := n } items rest
  | .number field :: items, cs =>
      match field.read (Text.skipBlanks cs) with
      | .error fault => .error fault
      | .ok (n, rest) =>
          match p.set field n with
          | .error fault => .error fault
          | .ok q => readLayout q items rest

/-- Year, month and day with dashes between them. -/
def dateLayout : List LayoutItem :=
  [.number .year, .mark '-', .number .month, .mark '-', .number .day]

/-- A date, blanks, and hour, minute and second with colons between them. -/
def timestampLayout : List LayoutItem :=
  dateLayout ++ [.blanks, .number .hour, .mark ':', .number .minute, .mark ':', .number .second]

/-- A date with blanks allowed around its dashes and at its end. -/
def looseDateLayout : List LayoutItem :=
  [.number .year, .blanks, .mark '-', .number .month, .blanks, .mark '-', .number .day, .blanks]

/-- A timestamp with the letter T between date and time of day, and an optional fraction. -/
def looseTimestampLayout : List LayoutItem :=
  looseDateLayout ++ [.mark 'T', .number .hour, .blanks, .mark ':', .number .minute, .blanks,
    .mark ':', .number .second, .fraction, .blanks]

namespace Date

/-- Reads a date along a layout. -/
def read (layout : List LayoutItem) (cs : List Char) : Except CalendarFault Date :=
  (readLayout {} layout cs).bind CalendarParts.date

end Date

namespace Timestamp

/-- Reads a timestamp along a layout. -/
def read (layout : List LayoutItem) (cs : List Char) : Except CalendarFault Timestamp :=
  (readLayout {} layout cs).bind CalendarParts.timestamp

end Timestamp

end LedgerMatch
