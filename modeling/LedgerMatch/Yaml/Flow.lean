import LedgerMatch.Yaml.Node
import LedgerMatch.Yaml.Scalar

/-!
# Brackets in YAML

Lists between brackets and tables between braces hold items with commas between them, and may reach
over several lines. A comma may stand behind the last item, and a key without a value has null. The
name of a node stands behind an ampersand where it is given, and behind an asterisk where it is used.
-/

namespace LedgerMatch.Yaml

open Text (Reader)
open Text.Reader

/-- Skips blanks, line ends and comments, of which there are fewer than given. A comment needs a blank
in front. -/
def skipGaps : Nat → Reader Unit
  | 0 => failure
  | n + 1 => do
      let gap ← takeAll isGap
      match ← rest with
      | '#' :: cs =>
          if gap = [] then failure
          set (cs.dropWhile (· != '\n'))
          skipGaps n
      | _ => pure ()

/-- Skips blanks, line ends and comments. -/
def skipAllGaps : Reader Unit := do skipGaps ((← rest).length + 1)

/-- Reads a plain scalar inside brackets, over lines fewer than given. -/
def plainLines : Nat → Reader (List Char)
  | 0 => failure
  | n + 1 => do
      let part ← ofFunction fun cs => some (plainPart true cs)
      let gap ← takeAll isGap
      let cs ← rest
      let stops := match cs with
        | [] => true
        | c :: _ => ",[]\x7b\x7d#:".toList.contains c
      if stops then
        set (gap ++ cs)
        pure (dropPadding part)
      else pure (dropPadding part ++ folded gap ++ (← plainLines n))

/-- Reads a scalar inside brackets. -/
def flowScalar : Reader Value := do
  match ← rest with
  | '"' :: _ => pure (.text (← quoted))
  | '\'' :: _ => pure (.text (← quoted))
  | cs =>
      if !startsPlain cs then failure
      match plainValue? (← plainLines (cs.length + 1)) with
      | some v => pure v
      | none => failure

/-- A character of the name of a node. -/
def isNameChar (c : Char) : Bool := !isGap c && !(",[]\x7b\x7d".toList.contains c)

/-- Reads the name of a node behind its sign. -/
def nodeName : Reader String := do pure (String.ofList (← takeSome isNameChar))

/-- Reads a field of a table between braces. -/
def flowField (value : Reader Node) : Reader (String × Node) := do
  match keyName? (← flowScalar) with
  | none => failure
  | some name =>
      skipAllGaps
      if ← accept ':' then
        skipAllGaps
        match ← rest with
        | ',' :: _ => pure (name, .scalar .null)
        | '\x7d' :: _ => pure (name, .scalar .null)
        | _ => pure (name, ← value)
      else pure (name, .scalar .null)

/-- Reads a value inside brackets, with brackets in each other at most so deep. -/
def flowValue : Nat → Reader Node
  | 0 => do pure (.scalar (← flowScalar))
  | depth + 1 => do
      if ← accept '[' then
        pure (.list (← enclosed (flowValue depth) skipAllGaps true ']'))
      else if ← accept '\x7b' then
        pure (.table (← enclosed (flowField (flowValue depth)) skipAllGaps true '\x7d'))
      else if ← accept '*' then pure (.reference (← nodeName))
      else if ← accept '&' then
        let name ← nodeName
        skipAllGaps
        pure (.named name (← flowValue depth))
      else pure (.scalar (← flowScalar))

end LedgerMatch.Yaml
