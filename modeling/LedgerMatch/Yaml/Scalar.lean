import LedgerMatch.Binary64.Decimal
import LedgerMatch.Text.Integer
import LedgerMatch.Text.Reader
import LedgerMatch.Value

/-!
# Scalars in YAML

A scalar is a text between quotes of either kind, or a plain run of characters, which may look like a
number, a truth value or null. Inside quotes the end of a line counts as a space, and further empty
lines as ends of lines.
-/

namespace LedgerMatch.Yaml

open Text (Reader)
open Text.Reader

def isPadding (c : Char) : Bool := c == ' ' || c == '\t'

def isGap (c : Char) : Bool := c == ' ' || c == '\t' || c == '\n'

/-- A blank, the end of a line, or the end of the text. -/
def startsWithGap (cs : List Char) : Bool := cs.head?.all isGap

/-! ### Quotes -/

/-- What a run of blanks and line ends between quotes stands for. -/
def folded (gap : List Char) : List Char :=
  match gap.count '\n' with
  | 0 => gap
  | 1 => [' ']
  | n + 2 => List.replicate (n + 1) '\n'

/-- The character behind a backslash. -/
def escape? : Char → Option Char
  | '0' => some '\x00'
  | 'a' => some '\x07'
  | 'b' => some '\x08'
  | 't' => some '\t'
  | '\t' => some '\t'
  | 'n' => some '\n'
  | 'v' => some '\x0b'
  | 'f' => some '\x0c'
  | 'r' => some '\r'
  | 'e' => some '\x1b'
  | ' ' => some ' '
  | '"' => some '"'
  | '\'' => some '\''
  | '\\' => some '\\'
  | 'N' => some '\u0085'
  | '_' => some '\u00a0'
  | 'L' => some '\u2028'
  | 'P' => some '\u2029'
  | _ => none

/-- The number of hexadecimal digits behind a backslash and a letter. -/
def digitCount? (c : Char) : Option Nat :=
  if c = 'x' then some 2 else if c = 'u' then some 4 else if c = 'U' then some 8 else none

/-- The character that hexadecimal digits number. -/
def numbered? (digits : List Char) : Option Char := do
  let values ← digits.mapM (Text.digitIn? 16)
  let n := values.foldl (fun n d => n * 16 + d) 0
  if n.isValidChar then some (Char.ofNat n) else none

/-- Puts characters in front of what was read. -/
def prepend (cs : List Char) (r : List Char × List Char) : List Char × List Char := (cs ++ r.1, r.2)

/-- Reads a text behind its opening double quote, in fewer steps than given. -/
def doubleQuoted : Nat → List Char → Option (List Char × List Char)
  | 0, _ => none
  | _, [] => none
  | _ + 1, '"' :: cs => some ([], cs)
  | n + 1, '\\' :: '\n' :: cs => doubleQuoted n (cs.dropWhile isPadding)
  | n + 1, '\\' :: c :: cs =>
      match digitCount? c with
      | some width =>
          if cs.length < width then none
          else (numbered? (cs.take width)).bind fun x =>
            (doubleQuoted n (cs.drop width)).map (prepend [x])
      | none => (escape? c).bind fun x => (doubleQuoted n cs).map (prepend [x])
  | n + 1, c :: cs =>
      if isGap c then
        (doubleQuoted n (cs.dropWhile isGap)).map (prepend (folded (c :: cs.takeWhile isGap)))
      else (doubleQuoted n cs).map (prepend [c])

/-- Reads a text behind its opening single quote, in fewer steps than given. A quote written twice
stands for itself. -/
def singleQuoted : Nat → List Char → Option (List Char × List Char)
  | 0, _ => none
  | _, [] => none
  | n + 1, '\'' :: '\'' :: cs => (singleQuoted n cs).map (prepend ['\''])
  | _ + 1, '\'' :: cs => some ([], cs)
  | n + 1, c :: cs =>
      if isGap c then
        (singleQuoted n (cs.dropWhile isGap)).map (prepend (folded (c :: cs.takeWhile isGap)))
      else (singleQuoted n cs).map (prepend [c])

/-- Reads a text between quotes of either kind. -/
def quoted : Reader String := do
  let double ← accept '"'
  if !double then expect '\''
  let n := (← rest).length + 1
  pure (String.ofList (← ofFunction (if double then doubleQuoted n else singleQuoted n)))

/-! ### Plain scalars -/

/-- A plain scalar starts with none of the signs that mean something else. -/
def startsPlain (cs : List Char) : Bool :=
  match cs with
  | [] => false
  | c :: rest =>
      if c = '-' ∨ c = '?' ∨ c = ':' then !startsWithGap rest
      else !isGap c && !(",[]\x7b\x7d#&*!|>'\"%@\x60".toList.contains c)

/-- The part of a line that a plain scalar takes: up to a colon or a comment with a blank at the right
place, and inside brackets up to a sign that divides their items. -/
def plainPart (inBrackets : Bool) : List Char → List Char × List Char
  | [] => ([], [])
  | c :: cs =>
      if c = '\n' then ([], c :: cs)
      else if c = ':' ∧ (startsWithGap cs ∨ (inBrackets ∧ cs.head?.any (",[]\x7b\x7d".toList.contains ·)))
      then ([], c :: cs)
      else if isPadding c ∧ cs.head? = some '#' then ([], c :: cs)
      else if inBrackets ∧ ",[]\x7b\x7d".toList.contains c then ([], c :: cs)
      else prepend [c] (plainPart inBrackets cs)

/-- A text without blanks at its end. -/
def dropPadding (cs : List Char) : List Char := (cs.reverse.dropWhile isPadding).reverse

/-- Names of the infinities and of no number, which stand for no value here. -/
def refusedNames : List String :=
  [".inf", ".Inf", ".INF", "+.inf", "+.Inf", "+.INF", "-.inf", "-.Inf", "-.INF", ".nan", ".NAN"]

/-- A whole number of 64 bits: hexadecimal, octal, with a plus sign, or decimal. -/
def integer? (cs : List Char) : Option Int :=
  let read (base : Nat) (cs : List Char) := (Text.readSigned base cs).toOption
  let special :=
    match cs with
    | '0' :: 'x' :: cs => read 16 cs
    | '0' :: 'o' :: cs => read 8 cs
    | '+' :: cs => read 10 cs
    | _ => none
  special.or (read 10 cs)

/-- The value of a plain scalar. -/
def plainValue? (cs : List Char) : Option Value :=
  let s := String.ofList cs
  if s = "" ∨ s = "~" ∨ s = "null" then some .null
  else if s = "true" then some (.boolean true)
  else if s = "false" then some (.boolean false)
  else if refusedNames.contains s then none
  else match integer? cs with
    | some n => some (.integer n)
    | none =>
        match Binary64.ofText? s with
        | some x => some (.real x)
        | none => some (.text s)

/-- The value of a plain scalar behind a tag. -/
def taggedValue? (tag : List Char) (cs : List Char) : Option Value :=
  let s := String.ofList cs
  match String.ofList tag with
  | "!!bool" =>
      some (if s = "true" then .boolean true else if s = "false" then .boolean false else .null)
  | "!!int" =>
      some (match Text.readSigned 10 cs with
        | .ok n => .integer n
        | .error _ => .null)
  | "!!float" =>
      if refusedNames.contains s then none
      else some (match Binary64.ofText? s with
        | some x => .real x
        | none => .null)
  | "!!null" => some .null
  | _ => some (.text s)

/-- The name of a value that is a key. -/
def keyName? : Value → Option String
  | .text s => some s
  | .integer n => some (toString n)
  | _ => none

end LedgerMatch.Yaml
