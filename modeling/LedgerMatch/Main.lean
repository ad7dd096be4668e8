import LedgerMatch.Program
import Std.Time.DateTime.Timestamp

/-!
# The command line

Reads the settings, the files below the roots that they name, and the environment, runs the
program, and puts what it changed back into place.
-/

namespace LedgerMatch.CommandLine

/-- A path as the operating system takes it. -/
def place (loc : Location) : String := "/" ++ "/".intercalate loc

/-- The content of a file, if it can be read. -/
def content? (loc : Location) : IO (Option Bytes) := do
  try
    let bytes ← IO.FS.readBinFile (place loc)
    pure (some bytes.data.toList)
  catch _ => pure none

/-- The names in a directory, if it can be listed. -/
def names? (loc : Location) : IO (Option (List String)) := do
  try
    let dir ← IO.FS.realPath (place loc)
    let found ← dir.readDir
    pure (some (found.toList.map (·.fileName)))
  catch _ => pure none

/-- Adds the directories on the way to a location, as far as they exist. -/
def addDirectories (t : Tree) (loc : Location) : IO Tree :=
  (List.range loc.length).foldlM (fun t n => do
    match ← names? (loc.take n) with
    | some _ => pure (t.put (loc.take n) .directory)
    | none => pure t) t

/-- Adds what lies at and below a location. -/
partial def addBelow (t : Tree) (loc : Location) : IO Tree := do
  match ← names? loc with
  | some names => names.foldlM (fun t s => addBelow t (loc ++ [s])) (t.put loc .directory)
  | none =>
      match ← content? loc with
      | some content => pure (t.put loc (.file content))
      | none => pure t

/-- Adds what lies at and below a path. -/
def addPath (t : Tree) (p : Path) : IO Tree := do
  let loc := t.nameOf p
  addBelow (← addDirectories t loc) loc

/-- The working directory with the files that settings can lie in. -/
def workingTree : IO Tree := do
  let home := ((← IO.currentDir).toString.splitOn "/").filter (· != "")
  let t ← addDirectories { nodes := [], home } home
  let names := SettingsFormat.extensions.map fun e => Program.settingsName ++ "." ++ e.1
  (Program.settingsName :: ".env" :: names).foldlM (fun t s => addBelow t (home ++ [s]))
    (t.put home .directory)

/-- Puts a file or directory into place. -/
def write : Location × TreeNode → IO Unit
  | (loc, .directory) => IO.FS.createDirAll (place loc)
  | (loc, .file content) => IO.FS.writeBinFile (place loc) ⟨content.toArray⟩

/-- Removes a file or an empty directory. -/
def remove (before : Tree) (loc : Location) : IO Unit :=
  match before.node? loc with
  | some .directory => IO.FS.removeDir (place loc)
  | _ => IO.FS.removeFile (place loc)

/-- The paths at which a staging area looks for its file and what lies beside it. -/
def stagingPaths (p : Path) : List Path :=
  match StagingAddress.ofPath? p with
  | none => []
  | some a => (a.pattern?.toList ++ ["", "-journal", "-wal", "-shm"].map (a.name ++ ·)).map Path.mk

/-- The files of a run with the given settings. -/
def runTree (t : Tree) (settings : Settings) : IO Tree :=
  ([settings.ledgerRoot, settings.statementRoot, settings.reportRoot]
    ++ stagingPaths settings.databasePath).foldlM addPath t

/-- Runs the program in the working directory. -/
def run : IO UInt32 := do
  let vars := Variables.ofBlock ((← content? ["proc", "self", "environ"]).getD [])
  let now ← Std.Time.Timestamp.now
  let t ← workingTree
  let before ←
    match Program.settings t vars 1 with
    | .ok settings => runTree t settings
    | .error _ => pure t
  let result := Program.run before vars 1 now.toSecondsSinceUnixEpoch.val
  (result.files.removedSince before).forM (remove before)
  (result.files.addedSince before).forM write
  result.complaints.forM IO.eprintln
  pure result.exitCode.toUInt32

end LedgerMatch.CommandLine

def main : IO UInt32 := LedgerMatch.CommandLine.run
