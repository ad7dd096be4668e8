import LedgerMatch.Files.Flat

/-!
# Files that fail

A flat file store in which operations on chosen paths, and on everything below them, fail. The
chosen paths stay the same whatever is written.
-/

namespace LedgerMatch

/-- The paths at and below which an operation fails. -/
structure Faults where
  walk : List Path := []
  openFile : List Path := []
  write : List Path := []
  remove : List Path := []
  /-- opened files whose reader gives way at once -/
  crash : List Path := []
  /-- opened files whose reader gives way after some bytes -/
  crashAfter : List (Path × Nat) := []
  /-- opened files that break off after some bytes -/
  broken : List (Path × Nat) := []
  deriving DecidableEq

namespace Faults

def none : Faults := {}

/-- A path at or below one of the roots. -/
def covers (roots : List Path) (p : Path) : Bool := roots.any p.isBelow

/-- The number of bytes that can be read of a file: that of the first root covering it. -/
def limit? (limits : List (Path × Nat)) (p : Path) : Option Nat :=
  (limits.find? fun r => p.isBelow r.1).map (·.2)

end Faults

structure FaultyFiles where
  files : FlatFiles
  faults : Faults
  deriving DecidableEq

namespace FaultyFiles

def walk (fs : FaultyFiles) (root : Path) : Except FileFault (List Path) :=
  if Faults.covers fs.faults.walk root then .error (.denied "walk") else .ok (fs.files.below root)

def openFile (fs : FaultyFiles) (p : Path) : Except FileFault Source :=
  if Faults.covers fs.faults.openFile p then .error (.denied "open")
  else if Faults.covers fs.faults.crash p then .ok (@Source.crashing [] "reader exploded")
  else match fs.files.find? p with
    | none => .error (.missing p)
    | some content =>
        match Faults.limit? fs.faults.crashAfter p with
        | some n => .ok (@Source.crashing (content.take n) "reader exploded")
        | none =>
            match Faults.limit? fs.faults.broken p with
            | some n => .ok (.broken (content.take n) (.denied "read"))
            | none => .ok (.whole content)

def write (fs : FaultyFiles) (p : Path) (content : Bytes) : Except FileFault Unit × FaultyFiles :=
  if Faults.covers fs.faults.write p then (.error (.denied "write"), fs)
  else (.ok (), { fs with files := fs.files.insert p content })

def remove (fs : FaultyFiles) (p : Path) : Except FileFault Unit × FaultyFiles :=
  if Faults.covers fs.faults.remove p then (.error (.denied "remove"), fs)
  else (.ok (), { fs with files := fs.files.erase p })

end FaultyFiles

instance : FileSystem FaultyFiles where
  walk := FaultyFiles.walk
  openFile := FaultyFiles.openFile
  write := FaultyFiles.write
  remove := FaultyFiles.remove

end LedgerMatch
