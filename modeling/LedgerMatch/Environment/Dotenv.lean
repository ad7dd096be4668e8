import LedgerMatch.Environment.Assignment
import LedgerMatch.Text.Bytes

/-!
# Dotenv files

A dotenv file sets variables that have no value yet, line by line. A line that ends inside quotes
goes on in the next one. Reading ends without notice at the first line that is broken or is not
text; what the lines before it set stays.
-/

namespace LedgerMatch.Environment

/-! ### Lines -/

/-- Cuts a content behind each line feed. -/
def rawLines : Bytes → List Bytes
  | [] => []
  | b :: rest =>
      if b = 10 then [b] :: rawLines rest
      else
        match rawLines rest with
        | [] => [[b]]
        | line :: lines => (b :: line) :: lines

/-- The lines of a content up to the first that is not text. -/
def textLines (content : Bytes) : List (List Char) :=
  (((rawLines (Text.dropMark content)).map Text.decode?).takeWhile Option.isSome).map fun s =>
    (s.getD "").toList

/-- What a line is inside of at some place. -/
inductive LineState where
  | text
  | blank
  | escape
  | single
  | singleEscape
  | double
  | doubleEscape
  deriving DecidableEq, Repr

namespace LineState

/-- The state outside quotes behind a character that is not a blank. -/
def outside (c : Char) : LineState :=
  if c = '\\' then escape else if c = '"' then double else if c = '\'' then single else text

def step (s : LineState) (c : Char) : LineState :=
  match s with
  | text => if Text.isBlank c ∧ c ≠ '\n' ∧ c ≠ '\r' then blank else outside c
  | blank => outside c
  | escape => text
  | single => if c = '\\' then singleEscape else if c = '\'' then text else single
  | singleEscape => single
  | double => if c = '\\' then doubleEscape else if c = '"' then text else double
  | doubleEscape => double

end LineState

/-- The characters of a line before a comment, and the state at its end, none behind a comment. -/
def scanLine (s : LineState) : List Char → List Char × Option LineState
  | [] => ([], some s)
  | c :: cs =>
      if s = .blank ∧ c = '#' then ([], none)
      else
        let (kept, last) := scanLine (s.step c) cs
        (c :: kept, last)

/-- A line without the line feed at its end, and without a carriage return before that. -/
def dropLineEnd (line : List Char) : List Char :=
  match line.reverse with
  | '\n' :: '\r' :: rest => rest.reverse
  | '\n' :: rest => rest.reverse
  | _ => line

/-- Joins lines of which one goes on in the next. A line that goes on behind the last is dropped. -/
def joinLines (pending : List Char) (s : LineState) : List (List Char) → List (List Char)
  | [] => []
  | line :: lines =>
      let whole := pending ++ line
      if (Text.skipBlanks whole).head? = some '#' then joinLines [] .text lines
      else
        match scanLine s line with
        | (kept, none) => (pending ++ kept) :: joinLines [] .text lines
        | (_, some .text) => dropLineEnd whole :: joinLines [] .text lines
        | (_, some s) => joinLines whole s lines

/-! ### Whole files -/

/-- The variables after lines up to the first broken one. -/
def applyLines (vars : Variables) : List (List Char) → Variables
  | [] => vars
  | line :: lines =>
      match applyLine? vars line with
      | some vars => applyLines vars lines
      | none => vars

/-- The variables after a dotenv file. -/
def applyDotenv (vars : Variables) (content : Bytes) : Variables :=
  applyLines vars (joinLines [] .text (textLines content))

end LedgerMatch.Environment
