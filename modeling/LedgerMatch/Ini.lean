import LedgerMatch.Text.Blank
import LedgerMatch.Text.Integer
import LedgerMatch.Text.Reader
import LedgerMatch.Value

/-!
# Reading INI

A document assigns texts to keys, first on its own and then in sections. A key reaches to the next
equals sign or colon, also over the ends of lines, and its value to the end of the line. Comments
fill whole lines, and a backslash starts an escape wherever a text is read.
-/

namespace LedgerMatch.Ini

open Text (Reader)
open Text.Reader

/-- The character that a letter behind a backslash stands for; all others stand for themselves. -/
def escape (c : Char) : Char :=
  if c = '0' then '\x00'
  else if c = 'a' then '\x07'
  else if c = 'b' then '\x08'
  else if c = 't' then '\t'
  else if c = 'r' then '\r'
  else if c = 'n' then '\n'
  else c

/-- The character of four hexadecimal digits. -/
def numbered? (a b c d : Char) : Option Char := do
  let values ← [a, b, c, d].mapM (Text.digitIn? 16)
  let n := values.foldl (fun n d => n * 16 + d) 0
  if n.isValidChar then some (Char.ofNat n) else none

/-- Reads up to a character of a class, which is left, or to the end of the text if that is allowed.
A line that ends in a backslash goes on in the next one. -/
def upTo (stops : Char → Bool) (endStops : Bool) : List Char → Option (List Char × List Char)
  | [] => if endStops then some ([], []) else none
  | '\\' :: '\n' :: cs => upTo stops endStops cs
  | '\\' :: 'x' :: a :: b :: c :: d :: cs => do
      let x ← numbered? a b c d
      (upTo stops endStops cs).map fun r => (x :: r.1, r.2)
  | '\\' :: c :: cs =>
      if c = 'x' then none else (upTo stops endStops cs).map fun r => (escape c :: r.1, r.2)
  | c :: cs =>
      if stops c then some ([], c :: cs)
      else if c = '\\' then none
      else (upTo stops endStops cs).map fun r => (c :: r.1, r.2)

/-- A text without the blanks around it. -/
def trimmed (cs : List Char) : String := String.ofList (Text.trimChars cs)

/-- Skips blanks, and says whether a line starts behind them. -/
def skipSpace (atStart : Bool) : Reader Bool := do
  let blanks ← takeAll Text.isBlank
  pure (match blanks.getLast? with
    | some c => c == '\n'
    | none => atStart)

def isLineEnd (c : Char) : Bool := c == '\n' || c == '\r'

/-- Reads the rest of a line. -/
def lineRest : Reader (List Char) := ofFunction (upTo isLineEnd true)

/-- Reads the value behind an equals sign. Quotes at its front keep the ends of lines. -/
def value : Reader String := do
  let _ ← takeAll fun c => Text.isBlank c && !isLineEnd c
  match ← rest with
  | c :: cs =>
      if c = '"' ∨ c = '\'' then
        set cs
        let inside ← ofFunction (upTo (· == c) false)
        expect c
        pure (trimmed (inside ++ (← lineRest)))
      else pure (trimmed (← lineRest))
  | [] => pure ""

/-- What was read: the assignments that stand in no section, and those of each section. -/
structure Draft where
  own : List (String × Value) := []
  sections : List (String × List (String × Value)) := []
  deriving Inhabited

namespace Draft

/-- Opens a section. A later section takes the place of an earlier one of its name. -/
def openSection (d : Draft) (name : String) : Draft :=
  { d with sections := d.sections ++ [(name, [])] }

/-- Assigns a text to a key, in the section that was opened last. -/
def assign (d : Draft) (key s : String) : Draft :=
  match d.sections.getLast? with
  | none => { d with own := d.own ++ [(key, .text s)] }
  | some (name, fields) =>
      { d with sections := d.sections.dropLast ++ [(name, fields ++ [(key, .text s)])] }

/-- The fields of a document. -/
def fields (d : Draft) : List (String × Value) :=
  Value.collectFields (d.own ++
    d.sections.map fun s => (s.1, .table (Value.collectFields s.2)))

end Draft

/-- Reads statements, fewer than given. A key waits for its value in the next statement. -/
def statements : Nat → Bool → String → Draft → Reader Draft
  | 0, _, _, _ => failure
  | n + 1, atStart, key, d => do
      let atStart ← skipSpace atStart
      match ← rest with
      | [] => pure d
      | c :: cs =>
          if c = ';' ∨ c = '#' then
            if !atStart then failure
            set ((cs.dropWhile (· != '\n')).drop 1)
            statements n true key d
          else if c = '[' then
            set cs
            let name ← ofFunction (upTo (· == ']') false)
            expect ']'
            statements n false key (d.openSection (trimmed name))
          else if c = '=' ∨ c = ':' then
            if key = "" then failure
            set cs
            statements n false "" (d.assign key (← value))
          else
            let key ← ofFunction (upTo (fun c => c == '=' || c == ':') false)
            statements n false (trimmed key) d

/-- Reads a document. -/
def document? (s : String) : Option (List (String × Value)) :=
  (whole? (statements (s.toList.length + 2) true "" {}) s.toList).map Draft.fields

end LedgerMatch.Ini
