/-!
# Readers

A reader takes something from the front of a text and leaves the rest, or fails. Readers are run one
after the other, and a second one can be tried where the first fails.
-/

namespace LedgerMatch.Text

/-- Takes something from the front of a text, or fails. -/
abbrev Reader := StateT (List Char) Option

namespace Reader

/-- The rest of the text. -/
def rest : Reader (List Char) := get

/-- Runs a reader given as a function on the rest of the text. -/
def ofFunction {α : Type} (f : List Char → Option (α × List Char)) : Reader α := f

/-- Takes a character that has to be there. -/
def expect (c : Char) : Reader Unit := do
  match ← rest with
  | d :: cs => if c = d then set cs else failure
  | [] => failure

/-- Takes a character if it is there. -/
def accept (c : Char) : Reader Bool := do
  match ← rest with
  | d :: cs => if c = d then set cs; pure true else pure false
  | [] => pure false

/-- Takes characters of a class, as many as there are. -/
def takeAll (p : Char → Bool) : Reader (List Char) := do
  let cs ← rest
  set (cs.dropWhile p)
  pure (cs.takeWhile p)

/-- Reads items with commas between them up to a closing character, fewer than given. Space is what
may stand around an item; a comma behind the last item is allowed or not. -/
def items {α : Type} (item : Reader α) (space : Reader Unit) (lastComma : Bool) (close : Char) :
    Nat → Reader (List α)
  | 0 => failure
  | n + 1 => do
      let a ← item
      space
      if ← accept ',' then
        space
        if lastComma && (← accept close) then pure [a]
        else pure (a :: (← items item space lastComma close n))
      else
        expect close
        pure [a]

/-- Reads items up to a closing character, perhaps none. -/
def enclosed {α : Type} (item : Reader α) (space : Reader Unit) (lastComma : Bool) (close : Char) :
    Reader (List α) := do
  space
  if ← accept close then pure []
  else items item space lastComma close ((← rest).length + 1)

/-- Takes the characters of a text, all of which have to be there. -/
def expectAll (cs : List Char) : Reader Unit := cs.forM expect

/-- Takes the characters of a text if all of them are there. -/
def acceptAll (cs : List Char) : Reader Bool := do
  let input ← rest
  if cs.isPrefixOf input then set (input.drop cs.length); pure true else pure false

/-- Takes characters of a class, at least one. -/
def takeSome (p : Char → Bool) : Reader (List Char) := do
  let cs ← takeAll p
  if cs = [] then failure else pure cs

/-- Reads a whole text. -/
def whole? {α : Type} (reader : Reader α) (cs : List Char) : Option α :=
  match reader cs with
  | some (a, []) => some a
  | _ => none

end Reader

end LedgerMatch.Text
