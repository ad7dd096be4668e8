import LedgerMatch.Text.Reader
import LedgerMatch.Toml.Moment
import LedgerMatch.Toml.Number
import LedgerMatch.Toml.Quoted
import LedgerMatch.Toml.Table

/-!
# Reading TOML

A document is a sequence of lines that set a key, open a table, or hold nothing, each perhaps with a
comment. It is read as a whole or not at all.
-/

namespace LedgerMatch.Toml

open Text (Reader)
open Text.Reader

namespace Reader

def skipBlanks : Reader Unit := do
  let _ ← takeAll fun c => c == ' ' || c == '\t'

/-- Skips a comment up to the end of its line. -/
def skipComment : Reader Unit := do
  if ← accept '#' then
    let _ ← takeAll isPlain

/-- Takes the end of a line if it is there. -/
def acceptLineEnd : Reader Bool := do
  match ← rest with
  | '\n' :: cs => set cs; pure true
  | '\r' :: '\n' :: cs => set cs; pure true
  | _ => pure false

/-- Skips blanks, comments and the ends of lines, of which there are fewer than given. -/
def skipLines : Nat → Reader Unit
  | 0 => failure
  | n + 1 => do
      skipBlanks
      skipComment
      if ← acceptLineEnd then skipLines n

/-- Skips blanks, comments and the ends of lines. -/
def skipAllLines : Reader Unit := do skipLines ((← rest).length + 1)

/-! ### Keys -/

def isKeyChar (c : Char) : Bool := c.isAlphanum || c == '_' || c == '-'

/-- Reads a part of a key: quoted, or a run of letters, digits, underscores and dashes. -/
def keyPart : Reader String := do
  match quotedLine? (← rest) with
  | some (s, cs) => set cs; pure (String.ofList s)
  | none =>
      let cs ← takeAll isKeyChar
      if cs = [] then failure else pure (String.ofList cs)

/-- Reads the parts of a key that a point has announced, fewer than given. -/
def moreParts : Nat → Reader (List String)
  | 0 => failure
  | n + 1 => do
      skipBlanks
      let part ← keyPart
      skipBlanks
      if ← accept '.' then pure (part :: (← moreParts n)) else pure [part]

/-- The largest number of parts of a key, and of values around a value. -/
def depthLimit : Nat := 79

/-- Reads a key: the path to its last part, and the last part. -/
def key : Reader (List String × String) := do
  let parts ← moreParts (depthLimit + 1)
  match parts.getLast? with
  | some last => if parts.length ≤ depthLimit then pure (parts.dropLast, last) else failure
  | none => failure

/-! ### Values -/

def isWordChar (c : Char) : Bool :=
  c.isAlphanum || c == '_' || c == '-' || c == '+' || c == '.' || c == ':'

/-- Reads a word; a date and a time of day with a space between them are one word. -/
def word : Reader (List Char) := do
  let first ← takeAll isWordChar
  match isDate first, ← rest with
  | true, ' ' :: cs =>
      let second := cs.takeWhile isWordChar
      if (timeAndOffset? second).isSome then
        set (cs.dropWhile isWordChar)
        pure (first ++ ' ' :: second)
      else pure first
  | _, _ => pure first

/-- The value of a word. -/
def wordValue? (cs : List Char) : Option Value :=
  ((moment? cs).map fun m => .text (String.ofList m)).or
    ((integer? cs).or ((real? cs).or (boolean? cs)))

/-- Reads a value that holds no other: a quoted text or a word. -/
def scalar : Reader Value := do
  match ← rest with
  | '"' :: _ => pure (.text (String.ofList (← ofFunction quoted?)))
  | '\'' :: _ => pure (.text (String.ofList (← ofFunction quoted?)))
  | _ =>
      match wordValue? (← word) with
      | some v => pure v
      | none => failure

/-- Reads a key and its value. -/
def keyValue (value : Reader Value) : Reader ((List String × String) × Value) := do
  let k ← key
  expect '='
  skipBlanks
  pure (k, ← value)

/-- Collects keys and values in a table. -/
def collect (pairs : List ((List String × String) × Value)) : Option Value :=
  (pairs.foldlM (fun fields p => Fields.insertValue p.1.1 p.1.2 p.2 fields) []).map fun fields =>
    .table (fieldValues fields)

/-- Reads a value. Lists and tables lie in each other at most so deep. -/
def value : Nat → Reader Value
  | 0 => scalar
  | depth + 1 => do
      if ← accept '[' then
        pure (.list (← enclosed (value depth) skipAllLines true ']'))
      else if ← accept '\x7b' then
        match collect (← enclosed (keyValue (value depth)) skipBlanks false '\x7d') with
        | some v => pure v
        | none => failure
      else scalar

/-! ### Documents -/

/-- The table that lines add to, and all tables so far. -/
structure Draft where
  header : List String := []
  fields : Fields := []

/-- Reads a header behind its first bracket. -/
def header (d : Draft) : Reader Draft := do
  let many ← accept '['
  let (path, last) ← key
  expect ']'
  if many then expect ']'
  match (if many then Fields.addTable else Fields.openTable) path last d.fields with
  | some fields => pure ⟨path ++ [last], fields⟩
  | none => failure

/-- Reads a line that is not blank. -/
def statement (d : Draft) : Reader Draft := do
  if ← accept '[' then header d
  else
    let ((path, last), v) ← keyValue (value depthLimit)
    match d.fields.insertBelow d.header path last v with
    | some fields => pure { d with fields }
    | none => failure

/-- Reads the lines of a document, fewer than given. -/
def lines : Nat → Draft → Reader Draft
  | 0, _ => failure
  | n + 1, d => do
      skipAllLines
      if (← rest) = [] then pure d
      else
        let d ← statement d
        skipBlanks
        skipComment
        if ← acceptLineEnd then lines n d
        else if (← rest) = [] then pure d
        else failure

end Reader

/-- Reads a document. -/
def document? (s : String) : Option (List (String × Value)) :=
  match Reader.lines (s.toList.length + 1) {} s.toList with
  | some (d, []) => some (fieldValues d.fields)
  | _ => none

end LedgerMatch.Toml
