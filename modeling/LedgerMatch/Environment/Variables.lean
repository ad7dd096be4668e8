import LedgerMatch.Text.Bytes

/-!
# Environment variables

Named texts that a program is started with. A name has one value, and names differ by the case of
their letters.
-/

namespace LedgerMatch

structure Variables where
  entries : List (String × String)
  deriving DecidableEq

namespace Variables

def empty : Variables := ⟨[]⟩

def find? (vars : Variables) (name : String) : Option String := vars.entries.lookup name

def contains (vars : Variables) (name : String) : Bool := (vars.find? name).isSome

/-- Sets a variable, in place of an earlier value. -/
def set (vars : Variables) (name value : String) : Variables :=
  if vars.contains name then
    ⟨vars.entries.map fun e => if e.1 = name then (name, value) else e⟩
  else ⟨vars.entries ++ [(name, value)]⟩

/-- Sets a variable unless it has a value. -/
def setNew (vars : Variables) (name value : String) : Variables :=
  if vars.contains name then vars else ⟨vars.entries ++ [(name, value)]⟩

/-- Sets variables from left to right. -/
def ofList (entries : List (String × String)) : Variables :=
  entries.foldl (fun vars e => vars.set e.1 e.2) empty

/-- Reads a block of entries, each a name, an equals sign and a value, with a zero byte at its end.
Entries that are not text are left out. -/
def ofBlock (block : Bytes) : Variables :=
  let entry? (bytes : Bytes) : Option (String × String) :=
    let value := (bytes.dropWhile (· != 61)).drop 1
    match Text.decode? (bytes.takeWhile (· != 61)), Text.decode? value with
    | some name, some value => if name = "" then none else some (name, value)
    | _, _ => none
  ofList ((block.splitOn 0).filterMap entry?)

end Variables

end LedgerMatch
