import LedgerMatch.Json.Number
import LedgerMatch.Text.Integer

/-!
# Reading JSON

A document is one value with blanks around it. Texts stand between double quotes, lists and tables
are nested at most so deep, and of two fields of one name the last one counts.
-/

namespace LedgerMatch.Json

open Text (Reader)
open Text.Reader

/-- Skips blanks. -/
def skipSpace : Reader Unit := do
  let _ ← takeAll fun c => c == ' ' || c == '\t' || c == '\n' || c == '\r'

/-! ### Texts -/

/-- The number of four hexadecimal digits. -/
def unit? (a b c d : Char) : Option Nat := do
  let values ← [a, b, c, d].mapM (Text.digitIn? 16)
  some (values.foldl (fun n d => n * 16 + d) 0)

/-- The character of a number that stands for it alone. -/
def single? (n : Nat) : Option Char := if n.isValidChar then some (Char.ofNat n) else none

/-- The character that two numbers stand for together: one from each half of the range kept free for
such pairs. -/
def paired? (high low : Nat) : Option Char :=
  if 0xD800 ≤ high ∧ high < 0xDC00 ∧ 0xDC00 ≤ low ∧ low < 0xE000 then
    single? (0x10000 + (high - 0xD800) * 0x400 + (low - 0xDC00))
  else none

/-- The character behind a backslash. -/
def escape? : Char → Option Char
  | '"' => some '"'
  | '\\' => some '\\'
  | '/' => some '/'
  | 'b' => some '\x08'
  | 'f' => some '\x0c'
  | 'n' => some '\n'
  | 'r' => some '\r'
  | 't' => some '\t'
  | _ => none

/-- Reads the character behind a backslash and the letter u. -/
def numbered? : List Char → Option (Char × List Char)
  | a :: b :: c :: d :: rest =>
      (unit? a b c d).bind fun n =>
        match single? n with
        | some x => some (x, rest)
        | none =>
            match rest with
            | '\\' :: 'u' :: e :: f :: g :: h :: rest =>
                (unit? e f g h).bind fun m => (paired? n m).map fun x => (x, rest)
            | _ => none
  | _ => none

/-- Reads a text behind its opening quote, of fewer characters than given. -/
def quoted : Nat → List Char → Option (List Char × List Char)
  | 0, _ => none
  | _, [] => none
  | _ + 1, '"' :: cs => some ([], cs)
  | n + 1, '\\' :: 'u' :: cs => do
      let (x, cs) ← numbered? cs
      let (text, cs) ← quoted n cs
      some (x :: text, cs)
  | n + 1, '\\' :: c :: cs => do
      let x ← escape? c
      let (text, cs) ← quoted n cs
      some (x :: text, cs)
  | n + 1, c :: cs => do
      if c.toNat < 0x20 ∨ c = '\\' then failure
      let (text, cs) ← quoted n cs
      some (c :: text, cs)

/-- Reads a text. -/
def text : Reader String := do
  expect '"'
  let cs ← rest
  pure (String.ofList (← ofFunction (quoted (cs.length + 1))))

/-! ### Values -/

/-- Reads a value that holds no other. -/
def scalar : Reader Value := do
  match ← rest with
  | '"' :: _ => pure (.text (← text))
  | 't' :: _ => expectAll ['t', 'r', 'u', 'e']; pure (.boolean true)
  | 'f' :: _ => expectAll ['f', 'a', 'l', 's', 'e']; pure (.boolean false)
  | 'n' :: _ => expectAll ['n', 'u', 'l', 'l']; pure .null
  | _ => number

/-- Reads a field of a table. -/
def field (value : Reader Value) : Reader (String × Value) := do
  let name ← text
  skipSpace
  expect ':'
  skipSpace
  pure (name, ← value)

/-- Reads a value with lists and tables in each other at most so deep. -/
def value : Nat → Reader Value
  | 0 => scalar
  | depth + 1 => do
      if ← accept '[' then
        pure (.list (← enclosed (value depth) skipSpace false ']'))
      else if ← accept '\x7b' then
        let fields ← enclosed (field (value depth)) skipSpace false '\x7d'
        pure (.table (Value.collectFields fields))
      else scalar

/-- The largest number of lists and tables around a value. -/
def depthLimit : Nat := 127

/-- Reads a document. -/
def document? (s : String) : Option Value :=
  whole? (do
    skipSpace
    let v ← value depthLimit
    skipSpace
    pure v) s.toList

end LedgerMatch.Json
