import LedgerMatch.Environment.Variables
import LedgerMatch.Text.Alphanumeric
import LedgerMatch.Text.Blank
import LedgerMatch.Text.Numeral

/-!
# Assignments to variables

A line of a dotenv file sets a variable: a name, an equals sign and a value. In a value, a dollar
sign stands for another variable, a backslash escapes a character, and quotes keep blanks: double
quotes leave the dollar sign and the backslash their meaning, single quotes do not. What follows a
blank outside quotes can only be a comment.
-/

namespace LedgerMatch.Environment

/-! ### Values -/

/-- The quotes that are open. -/
inductive Quote where
  | none
  | single
  | double
  deriving DecidableEq, Repr

/-- What the next character of a value belongs to. -/
inductive ValuePhase where
  | text
  /-- behind a backslash -/
  | escape
  /-- in a name behind a dollar sign -/
  | name
  /-- in a name between braces -/
  | bracedName
  /-- behind a blank that ended the value -/
  | ended
  | comment
  deriving DecidableEq, Repr

/-- A value that is being read. The text and the name are held latest character first. -/
structure ValueState where
  quote : Quote := .none
  phase : ValuePhase := .text
  name : List Char := []
  text : List Char := []
  deriving DecidableEq

/-- The character behind a backslash. -/
def escape? (c : Char) : Option Char :=
  if c = 'n' then some '\n'
  else if c = '\\' ∨ c = '\'' ∨ c = '"' ∨ c = '$' ∨ c = ' ' then some c
  else none

namespace ValueState

def push (s : ValueState) (c : Char) : ValueState := { s with phase := .text, text := c :: s.text }

/-- Puts the value of the variable that was named into the text, nothing if it has none. -/
def substitute (vars : Variables) (s : ValueState) : ValueState :=
  let value := (vars.find? (String.ofList s.name.reverse)).getD ""
  { s with phase := .text, name := [], text := value.toList.reverse ++ s.text }

/-- Takes a character of the text inside or outside quotes. -/
def stepText (s : ValueState) (c : Char) : ValueState :=
  match s.quote with
  | .single => if c = '\'' then { s with quote := .none } else s.push c
  | .double =>
      if c = '$' then { s with phase := .name }
      else if c = '"' then { s with quote := .none }
      else if c = '\\' then { s with phase := .escape }
      else s.push c
  | .none =>
      if c = '$' then { s with phase := .name }
      else if c = '\'' then { s with quote := .single }
      else if c = '"' then { s with quote := .double }
      else if c = '\\' then { s with phase := .escape }
      else if c = ' ' ∨ c = '\t' then { s with phase := .ended }
      else s.push c

/-- Takes a character behind a dollar sign. A name consists of letters and digits. -/
def stepName (vars : Variables) (s : ValueState) (c : Char) : ValueState :=
  if Text.isAlphanumeric c then { s with name := c :: s.name }
  else if c = '\x7b' ∧ s.name = [] then { s with phase := .bracedName }
  else if c = '$' then { s.substitute vars with phase := .name }
  else (s.substitute vars).push c

/-- Takes a character, if the value can go on with it. -/
def step? (vars : Variables) (s : ValueState) (c : Char) : Option ValueState :=
  match s.phase with
  | .text => some (s.stepText c)
  | .escape => (escape? c).map s.push
  | .name => some (s.stepName vars c)
  | .bracedName =>
      some (if c = '\x7d' then s.substitute vars else { s with name := c :: s.name })
  | .ended =>
      if c = ' ' ∨ c = '\t' then some s
      else if c = '#' then some { s with phase := .comment }
      else none
  | .comment => some s

/-- The value at the end of its line, if nothing was left open. -/
def finish? (vars : Variables) (s : ValueState) : Option String :=
  if s.quote ≠ .none ∨ s.phase = .bracedName then none
  else some (String.ofList (s.substitute vars).text.reverse)

end ValueState

/-- Reads a value. -/
def value? (vars : Variables) (cs : List Char) : Option String :=
  (cs.foldlM (ValueState.step? vars) {}).bind (ValueState.finish? vars)

/-! ### Lines -/

/-- Reads a name at the front of a text, and returns the rest behind blanks. -/
def name? (cs : List Char) : Option (String × List Char) :=
  let isInside (c : Char) := c.isAlphanum || c == '_' || c == '.'
  match cs with
  | [] => none
  | c :: _ =>
      if c.isAlpha || c == '_' then
        some (String.ofList (cs.takeWhile isInside), Text.skipBlanks (cs.dropWhile isInside))
      else none

/-- Reads the value behind an equals sign. -/
def behindEquals? (vars : Variables) (name : String) : List Char → Option (String × String)
  | '=' :: cs =>
      match Text.skipBlanks cs with
      | [] => some (name, "")
      | '#' :: _ => some (name, "")
      | cs => (value? vars cs).map fun v => (name, v)
  | _ => none

/-- Reads a name and the value behind it. The word export may stand before the name, and is a name
itself if an equals sign follows. -/
def assignment? (vars : Variables) (cs : List Char) : Option (String × String) :=
  match name? cs with
  | none => none
  | some (name, rest) =>
      if name = "export" ∧ rest.head? ≠ some '=' then
        (name? rest).bind fun r => behindEquals? vars r.1 r.2
      else behindEquals? vars name rest

/-- The variables after a line, unless the line is broken. A line that is empty or a comment sets
nothing, and a variable that has a value keeps it. -/
def applyLine? (vars : Variables) (line : List Char) : Option Variables :=
  match Text.trimChars line with
  | [] => some vars
  | '#' :: _ => some vars
  | cs => (assignment? vars cs).map fun a => vars.setNew a.1 a.2

end LedgerMatch.Environment
