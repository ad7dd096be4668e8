import LedgerMatch.Binary64.Arithmetic
import LedgerMatch.Binary64.Decimal
import LedgerMatch.Text.Blank
import LedgerMatch.Text.Integer
import LedgerMatch.Text.Reader
import LedgerMatch.Value

/-!
# Reading object notation

A document in RON is one value: a scalar, a list, a table, or a record, which is a table with names
for keys between parentheses and perhaps a name in front. An optional value is null or a value.
-/

namespace LedgerMatch.Ron

open Text (Reader)
open Text.Reader

/-! ### Gaps -/

/-- The text behind the end of a comment over lines, inside which comments can be nested. -/
def behindComment? : Nat → List Char → Option (List Char)
  | depth, '*' :: '/' :: cs => if depth = 0 then some cs else behindComment? (depth - 1) cs
  | depth, '/' :: '*' :: cs => behindComment? (depth + 1) cs
  | depth, _ :: cs => behindComment? depth cs
  | _, [] => none

/-- Skips blanks and comments, of which there are fewer than given. -/
def skipGaps : Nat → Reader Unit
  | 0 => failure
  | n + 1 => do
      let _ ← takeAll Text.isBlank
      match ← rest with
      | '/' :: '/' :: cs => set (cs.dropWhile (· != '\n')); skipGaps n
      | '/' :: '*' :: cs =>
          match behindComment? 0 cs with
          | some cs => set cs; skipGaps n
          | none => failure
      | _ => pure ()

/-- Skips blanks and comments. -/
def skipAllGaps : Reader Unit := do skipGaps ((← rest).length + 1)

/-! ### Texts and names -/

/-- The character that hexadecimal digits number. -/
def numbered? (digits : List Char) : Option Char := do
  let values ← digits.mapM (Text.digitIn? 16)
  let n := values.foldl (fun n d => n * 16 + d) 0
  if digits ≠ [] ∧ n.isValidChar then some (Char.ofNat n) else none

/-- Reads the character behind a backslash. -/
def escaped? : List Char → Option (Char × List Char)
  | 'n' :: cs => some ('\n', cs)
  | 'r' :: cs => some ('\r', cs)
  | 't' :: cs => some ('\t', cs)
  | '0' :: cs => some ('\x00', cs)
  | '\\' :: cs => some ('\\', cs)
  | '\'' :: cs => some ('\'', cs)
  | '"' :: cs => some ('"', cs)
  | 'x' :: a :: b :: cs => (numbered? [a, b]).map fun c => (c, cs)
  | 'u' :: '\x7b' :: cs =>
      let digits := cs.takeWhile (· != '\x7d')
      if digits.length ≤ 6 then
        (numbered? digits).map fun c => (c, (cs.dropWhile (· != '\x7d')).drop 1)
      else none
  | _ => none

/-- Reads a text behind its opening quote, in fewer steps than given. -/
def quoted : Nat → List Char → Option (List Char × List Char)
  | 0, _ => none
  | _, [] => none
  | _ + 1, '"' :: cs => some ([], cs)
  | n + 1, '\\' :: cs => do
      let (c, cs) ← escaped? cs
      let (text, cs) ← quoted n cs
      some (c :: text, cs)
  | n + 1, c :: cs => do
      let (text, cs) ← quoted n cs
      some (c :: text, cs)

/-- Reads a raw text behind its opening quote, up to a quote with so many signs behind it. -/
def raw (signs : Nat) : List Char → Option (List Char × List Char)
  | [] => none
  | c :: cs =>
      if c = '"' ∧ (List.replicate signs '#').isPrefixOf cs then some ([], cs.drop signs)
      else (raw signs cs).map fun r => (c :: r.1, r.2)

/-- Reads a character between single quotes. -/
def character : Reader Char := do
  expect '\''
  match ← rest with
  | '\\' :: cs =>
      match escaped? cs with
      | some (c, cs) => set cs; expect '\''; pure c
      | none => failure
  | c :: cs => set cs; expect '\''; pure c
  | [] => failure

def isNameChar (c : Char) : Bool := c.isAlphanum || c == '_'

/-- Reads a name. -/
def name : Reader String := do
  match ← rest with
  | c :: _ =>
      if Text.isDigit c then failure
      pure (String.ofList (← takeSome isNameChar))
  | [] => failure

/-! ### Numbers -/

def isNumberChar (c : Char) : Bool := c.isAlphanum || c == '+' || c == '-' || c == '.' || c == '_'

/-- The value of a whole number, in the base that its front names. -/
def natural? (cs : List Char) : Option Nat :=
  let read (base : Nat) (digits : List Char) : Option Nat := do
    let values ← (digits.filter (· != '_')).mapM (Text.digitIn? base)
    if values = [] ∨ digits.head? = some '_' then failure
    some (values.foldl (fun n d => n * base + d) 0)
  match cs with
  | '0' :: 'x' :: cs => read 16 cs
  | '0' :: 'o' :: cs => read 8 cs
  | '0' :: 'b' :: cs => read 2 cs
  | cs => read 10 cs

/-- Reads a number with an optional sign. -/
def number : Reader Value := do
  let cs ← takeSome isNumberChar
  let negative := cs.head? == some '-'
  let unsigned := if negative ∨ cs.head? = some '+' then cs.tail else cs
  match natural? unsigned with
  | some n =>
      let n := Binary64.signed negative n
      if Text.integerMin ≤ n ∧ n ≤ Text.integerMax then pure (.integer n)
      else pure (.real (.ofAnyDecimal negative ⟨n.natAbs, 0⟩))
  | none =>
      match Binary64.decimal? (unsigned.filter (· != '_')) with
      | some d => pure (.real (.ofAnyDecimal negative d))
      | none =>
          match String.ofList unsigned with
          | "inf" => pure (.real (.infinite negative))
          | "NaN" => pure (.real .nan)
          | _ => failure

/-! ### Values -/

/-- Reads a field of a record. -/
def recordField (value : Reader Value) : Reader (String × Value) := do
  let name ← name
  skipAllGaps
  expect ':'
  skipAllGaps
  pure (name, ← value)

/-- Reads a field of a table, of which the key is a text. -/
def tableField (value : Reader Value) : Reader (String × Value) := do
  match ← value with
  | .text name =>
      skipAllGaps
      expect ':'
      skipAllGaps
      pure (name, ← value)
  | _ => failure

/-- Reads what stands behind an opening parenthesis: the fields of a record, or items. Nothing at all
is null. -/
def group (value : Reader Value) : Reader Value := do
  skipAllGaps
  if ← accept ')' then pure .null
  else
    let record : Reader Value := do
      pure (.table (Value.collectFields (← enclosed (recordField value) skipAllGaps true ')')))
    let tuple : Reader Value := do
      pure (.list (← enclosed value skipAllGaps true ')'))
    record <|> tuple

/-- Reads a value that begins with a name. -/
def named (value : Reader Value) : Reader Value := do
  let s ← name
  if s = "true" then pure (.boolean true)
  else if s = "false" then pure (.boolean false)
  else if s = "None" then pure .null
  else if s = "inf" then pure (.real (.infinite false))
  else if s = "NaN" then pure (.real .nan)
  else
    skipAllGaps
    if ← accept '(' then
      if s = "Some" then
        skipAllGaps
        let v ← value
        skipAllGaps
        let _ ← accept ','
        skipAllGaps
        expect ')'
        pure v
      else group value
    else pure .null

/-- Reads a text, raw or not. -/
def text : Reader String := do
  match ← rest with
  | 'r' :: cs =>
      let signs := (cs.takeWhile (· == '#')).length
      set (cs.drop signs)
      expect '"'
      pure (String.ofList (← ofFunction (raw signs)))
  | cs =>
      expect '"'
      pure (String.ofList (← ofFunction (quoted cs.length)))

/-- Reads a value with values in each other at most so deep. -/
def value : Nat → Reader Value
  | 0 => failure
  | depth + 1 => do
      match ← rest with
      | '(' :: cs => set cs; group (value depth)
      | '[' :: cs =>
          set cs
          pure (.list (← enclosed (value depth) skipAllGaps true ']'))
      | '\x7b' :: cs =>
          set cs
          let fields ← enclosed (tableField (value depth)) skipAllGaps true '\x7d'
          pure (.table (Value.collectFields fields))
      | '"' :: _ => pure (.text (← text))
      | 'r' :: '"' :: _ => pure (.text (← text))
      | 'r' :: '#' :: _ => pure (.text (← text))
      | '\'' :: _ => pure (.text (String.singleton (← character)))
      | c :: _ => if c.isAlpha || c == '_' then named (value depth) else number
      | [] => failure

/-- The largest number of values around a value. -/
def depthLimit : Nat := 128

/-- Skips lines that switch on extensions of the notation, fewer than given. -/
def skipExtensions : Nat → Reader Unit
  | 0 => failure
  | n + 1 => do
      skipAllGaps
      if ← accept '#' then
        let _ ← takeAll (· != ']')
        expect ']'
        skipExtensions n

/-- Reads a document. -/
def document? (s : String) : Option Value :=
  Text.Reader.whole? (do
    skipExtensions (s.toList.length + 1)
    let v ← value depthLimit
    skipAllGaps
    pure v) s.toList

end LedgerMatch.Ron
