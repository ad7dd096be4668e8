import LedgerMatch.Binary64.Decimal
import LedgerMatch.Json.Reader
import LedgerMatch.Text.Alphanumeric
import LedgerMatch.Text.Blank

/-!
# Relaxed JSON

A form of JSON for files written by hand: comments, names without quotes, texts in single quotes, a
comma behind the last item, and more ways to write a number.
-/

namespace LedgerMatch.Json.Relaxed

open Text (Reader)
open Text.Reader

def isLineEnd (c : Char) : Bool := c == '\n' || c == '\r' || c == '\u2028' || c == '\u2029'

def isSpace (c : Char) : Bool := (Text.isBlank c && c != '\u0085') || c == '\ufeff'

/-- The text behind the end of a comment over lines, if it ends. -/
def behindComment? : List Char → Option (List Char)
  | '*' :: '/' :: cs => some cs
  | _ :: cs => behindComment? cs
  | [] => none

/-- Skips blanks and comments, of which there are fewer than given. -/
def skipGaps : Nat → Reader Unit
  | 0 => failure
  | n + 1 => do
      let _ ← takeAll isSpace
      match ← rest with
      | '/' :: '/' :: cs => set (cs.dropWhile fun c => !isLineEnd c); skipGaps n
      | '/' :: '*' :: cs =>
          match behindComment? cs with
          | some cs => set cs; skipGaps n
          | none => failure
      | _ => pure ()

/-- Skips blanks and comments. -/
def skipAllGaps : Reader Unit := do skipGaps ((← rest).length + 1)

/-! ### Texts and names -/

/-- The character behind a backslash, where it is not the end of a line. -/
def escape? (c : Char) : Option Char :=
  if c = 'b' then some '\x08'
  else if c = 'f' then some '\x0c'
  else if c = 'n' then some '\n'
  else if c = 'r' then some '\r'
  else if c = 't' then some '\t'
  else if c = 'v' then some '\x0b'
  else if c = '0' then some '\x00'
  else if Text.isDigit c ∨ c = 'x' ∨ c = 'u' then none
  else some c

/-- Reads a text behind its opening quote, in fewer steps than given. -/
def quoted (quote : Char) : Nat → List Char → Option (List Char × List Char)
  | 0, _ => none
  | _, [] => none
  | n + 1, '\\' :: 'u' :: cs => do
      let (x, cs) ← numbered? cs
      let (text, cs) ← quoted quote n cs
      some (x :: text, cs)
  | n + 1, '\\' :: 'x' :: a :: b :: cs => do
      let x ← (unit? '0' '0' a b).bind single?
      let (text, cs) ← quoted quote n cs
      some (x :: text, cs)
  | n + 1, '\\' :: '\r' :: '\n' :: cs => quoted quote n cs
  | n + 1, '\\' :: c :: cs =>
      if isLineEnd c then quoted quote n cs
      else do
        let x ← escape? c
        let (text, cs) ← quoted quote n cs
        some (x :: text, cs)
  | n + 1, c :: cs => do
      if c = quote then some ([], cs)
      else if c = '\\' ∨ isLineEnd c then none
      else
        let (text, cs) ← quoted quote n cs
        some (c :: text, cs)

/-- Reads a text between quotes of either kind. -/
def text : Reader String := do
  let quote := if ← accept '\'' then '\'' else '"'
  if quote = '"' then expect '"'
  let n := (← rest).length + 1
  pure (String.ofList (← ofFunction (quoted quote n)))

/-- A character that a name can start with. -/
def startsName (c : Char) : Bool :=
  c == '$' || c == '_' || (Text.isAlphanumeric c && !Text.isDigit c)

/-- Reads the name of a field, with quotes or without. -/
def name : Reader String := do
  match ← rest with
  | '"' :: _ => text
  | '\'' :: _ => text
  | c :: _ =>
      if !startsName c then failure
      pure (String.ofList (← takeAll fun c => startsName c || Text.isDigit c))
  | [] => failure

/-! ### Numbers -/

/-- The end of the hexadecimal numbers. -/
def hexadecimalEnd : Nat := 4294967296

def isNumberChar (c : Char) : Bool := c.isAlphanum || c == '+' || c == '-' || c == '.'

/-- The digits in front of a fraction, without a needless zero in front. -/
def hasPlainWhole (cs : List Char) : Bool :=
  match cs.takeWhile Text.isDigit with
  | '0' :: _ :: _ => false
  | _ => true

/-- The value of a number without a sign, for one with the given sign in front. -/
def unsignedValue? (sign : Option Char) (cs : List Char) : Option Value :=
  let negative := sign == some '-'
  match cs with
  | '0' :: x :: digits =>
      if x = 'x' ∨ x = 'X' then do
        if sign.isSome ∨ digits = [] then failure
        let values ← digits.mapM (Text.digitIn? 16)
        let n := values.foldl (fun n d => n * 16 + d) 0
        if n < hexadecimalEnd then some (.integer n) else none
      else decimal? negative cs
  | _ => decimal? negative cs
where
  /-- The value of a decimal number. -/
  decimal? (negative : Bool) (cs : List Char) : Option Value :=
    let s := String.ofList cs
    if s = "NaN" then some (.real .nan)
    else if s = "Infinity" then some (.real (.infinite negative))
    else if !hasPlainWhole cs then none
    else if cs ≠ [] ∧ cs.all Text.isDigit then
      let n := Binary64.signed negative (Text.digitsValue cs)
      if Text.integerMin ≤ n ∧ n ≤ Text.integerMax then some (.integer n) else none
    else
      (Binary64.decimal? cs).bind fun d =>
        match Binary64.ofAnyDecimal negative d with
        | .infinite _ => none
        | x => some (.real x)

/-- Reads a number. The names of numbers that are none have no plus sign. -/
def number : Reader Value := do
  let cs ← takeSome isNumberChar
  let sign := cs.head?.filter fun c => c == '+' || c == '-'
  let unsigned := if sign.isSome then cs.tail else cs
  if sign = some '+' ∧ unsigned.head?.all Char.isAlpha then failure
  match unsignedValue? sign unsigned with
  | some v => pure v
  | none => failure

/-! ### Values -/

/-- Reads a value that holds no other. -/
def scalar : Reader Value := do
  match ← rest with
  | '"' :: _ => pure (.text (← text))
  | '\'' :: _ => pure (.text (← text))
  | _ =>
      if ← acceptAll "null".toList then pure .null
      else if ← acceptAll "true".toList then pure (.boolean true)
      else if ← acceptAll "false".toList then pure (.boolean false)
      else number

/-- Reads a field of a table. -/
def field (value : Reader Value) : Reader (String × Value) := do
  let name ← name
  skipAllGaps
  expect ':'
  skipAllGaps
  pure (name, ← value)

/-- Reads a value with lists and tables in each other at most so deep. -/
def value : Nat → Reader Value
  | 0 => scalar
  | depth + 1 => do
      if ← accept '[' then
        pure (.list (← enclosed (value depth) skipAllGaps true ']'))
      else if ← accept '\x7b' then
        let fields ← enclosed (field (value depth)) skipAllGaps true '\x7d'
        pure (.table (Value.collectFields fields))
      else scalar

/-- Reads a document. -/
def document? (s : String) : Option Value :=
  whole? (do
    skipAllGaps
    let v ← value (← rest).length
    skipAllGaps
    pure v) s.toList

end LedgerMatch.Json.Relaxed
