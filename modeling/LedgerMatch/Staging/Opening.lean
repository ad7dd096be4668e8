import LedgerMatch.Files.Tree
import LedgerMatch.Staging.Address
import LedgerMatch.Staging.Pages

/-!
# Opening staging areas

The file of a staging area is made if it is missing and the address allows it. Beside it lie a
journal, a log and the shared part of the log, each named after it; a directory in their place is in
the way. A file that can only be read can be opened if that changes nothing, but nothing can be
staged in it.
-/

namespace LedgerMatch

/-- An opened staging area: whether something can be staged in it, and where its file lies, if it
has one that will hold the tables. -/
structure OpenedStaging where
  isWritable : Bool
  file? : Option Location
  deriving DecidableEq

namespace Tree

/-! ### Finding the file -/

/-- The length of the path of a location, in bytes. -/
def pathLength (loc : Location) : Nat := loc.foldl (fun n s => n + s.utf8ByteSize + 1) 0

/-- The largest length of the path of a staging file, in bytes. -/
def stagingPathLimit : Nat := 504

/-- The largest length of a path that is passed on the way to a staging file. -/
def passedPathLimit : Nat := 511

/-- Goes to the next part of the path of a staging file. A step back needs nothing to be there. A
name may be missing, but it cannot be looked for in a file. -/
def stagingStep? (t : Tree) (loc : Location) (part : List Char) : Option Location :=
  match stepOf part with
  | .name s =>
      let next := loc ++ [s]
      if passedPathLimit < pathLength next then none
      else match t.follow [] (next.map .name) with
        | .ok _ => some next
        | .error .notFound => some next
        | .error _ => none
  | .parent => some loc.dropLast
  | _ => some loc

/-- Where a staging file lies. -/
def stagingLocation? (t : Tree) (name : String) : Option Location := do
  let parts := (Text.cut (· == '/') name.toList).filter (· ≠ [])
  let loc ← parts.foldlM t.stagingStep? (if Path.isAbsolute ⟨name⟩ then [] else t.home)
  if loc = [] ∨ stagingPathLimit < pathLength loc then none else some loc

/-- The file of an address and what it holds. It may be one that has to be made. -/
def stagingFile? (t : Tree) (a : StagingAddress) : Option (Location × StagingPages) := do
  let loc ← t.stagingLocation? a.name
  if a.pattern?.any fun s => (t.lookup ⟨s⟩).toOption.isNone then none
  else match t.node? loc, t.node? loc.dropLast with
    | some (.file content), _ => some (loc, ⟨content⟩)
    | none, some .directory => if a.mode = .create then some (loc, ⟨[]⟩) else none
    | _, _ => none

/-! ### Opening it -/

/-- Whether there cannot be a file beside another one, named after it: a directory lies there, or
the name is too long. -/
def isObstructed (t : Tree) (loc : Location) (ending : String) : Bool :=
  let name := loc.getLast?.getD "" ++ ending
  t.node? (loc.dropLast ++ [name]) == some .directory || nameLimit < name.utf8ByteSize

/-- The file of an address as it can be used. -/
def openedFile? (t : Tree) (a : StagingAddress) (loc : Location) (f : StagingPages) :
    Option OpenedStaging :=
  let unwritable : OpenedStaging := ⟨false, none⟩
  if !f.isSound then none
  else if a.isImmutable then some unwritable
  else if t.isObstructed loc "-journal" || t.isObstructed loc "-wal" then none
  else if f.keepsLog && !a.keepsLog then none
  else if a.isReadOnly || f.isReadOnly then
    if a.keepsLog && !f.keepsLog then none else some unwritable
  else if a.sharesLog && t.isObstructed loc "-shm" then some unwritable
  else some ⟨true, some loc⟩

/-- Opens a staging area. Its file is made before it turns out whether it can be used. -/
def openStaging (t : Tree) (p : Path) : Option OpenedStaging × Tree :=
  match StagingAddress.ofPath? p with
  | none => (none, t)
  | some a =>
      if a.isFileless then (some ⟨!a.isReadOnly, none⟩, t)
      else match t.stagingFile? a with
        | none => (none, t)
        | some (loc, f) =>
            let made := if (t.node? loc).isNone then t.put loc (.file []) else t
            (made.openedFile? a loc f, made)

end Tree

end LedgerMatch
