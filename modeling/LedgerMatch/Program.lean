import LedgerMatch.LogFilter
import LedgerMatch.Run
import LedgerMatch.Settings.Load
import LedgerMatch.Staging.Opening

/-!
# The program

The program loads its settings from the working directory and the environment, sets up what it logs,
opens the staging area, and makes a run on the files. It ends with the first of these steps that
fails; nothing can be wrong with what it logs but single directives, which it leaves out.
-/

namespace LedgerMatch

/-- The step that failed. -/
inductive ProgramFailure where
  | settings (cause : Failure)
  | staging (path : Path)
  | run (cause : Failure)
  deriving DecidableEq

namespace ProgramFailure

def message : ProgramFailure → String
  | settings _ => "failed to load configuration"
  | staging path => "failed to open staging store " ++ path.text
  | run _ => "reconciliation failed"

/-- The message and what it goes back to, as they are shown when the program ends. -/
def report (f : ProgramFailure) : String :=
  let cause (c : Failure) := "\n\nCaused by:\n    " ++ c.message
  let behind :=
    match f with
    | settings c => cause c
    | staging _ => ""
    | run c => cause c
  "Error: " ++ f.message ++ behind

end ProgramFailure

/-- What the program leaves behind: the failure that ended it, if any, the files, and the staging
area with the location of its file, where it has one. Before the failure it may have noticed
something. -/
structure ProgramResult where
  failure : Option ProgramFailure
  files : Tree
  staging : Staging := .empty
  database : Option Location := none
  notices : List String := []

namespace Program

/-- The name of settings files in front of their extensions. -/
def settingsName : String := "reconcile"

/-- The settings file of a working directory. A file of its bare name hides it. -/
def settingsFile? (files : Tree) : Option SettingsFile :=
  if (files.content? ⟨settingsName⟩).isSome then none
  else SettingsFormat.extensions.findSome? fun (extension, format) =>
    (files.content? ⟨settingsName ++ "." ++ extension⟩).map fun content => ⟨format, content⟩

/-- The settings that a working directory and variables hold. -/
def settings (files : Tree) (vars : Variables) (processors : Nat) : Except Failure Settings :=
  Settings.load (settingsFile? files) (files.content? ⟨".env"⟩) vars processors

/-- The variable that can hold a log filter. A sound one is used in place of the settings. -/
def filterVariable : String := "RUST_LOG"

/-- The notices on the log filter. -/
def notices (files : Tree) (vars : Variables) (settings : Settings) : List String :=
  let vars := Environment.applyDotenv vars ((files.content? ⟨".env"⟩).getD [])
  if (vars.find? filterVariable).any LogFilter.isSound then []
  else LogFilter.notices settings.logLevel

/-- Makes a run with loaded settings in an opened staging area. -/
def runWith (settings : Settings) (timestamp : Int) (opened : OpenedStaging) (files : Tree) :
    ProgramResult :=
  let failure {α : Type} : Except Failure α → Option ProgramFailure
    | .ok _ => none
    | .error cause => some (.run cause)
  match RunPlan.make settings .standard timestamp none with
  | .error cause => { failure := some (.run cause), files }
  | .ok plan =>
      if opened.isWritable then
        let (result, s) := plan.run Staging.empty files
        { failure := failure result, files := s.files, staging := s.area, database := opened.file? }
      else
        let (result, s) := plan.run LockedArea.locked files
        { failure := failure result, files := s.files }

/-- Opens the staging area and makes a run with loaded settings. -/
def runLoaded (settings : Settings) (timestamp : Int) (files : Tree) : ProgramResult :=
  match files.openStaging settings.databasePath with
  | (none, files) => { failure := some (.staging settings.databasePath), files }
  | (some opened, files) => runWith settings timestamp opened files

/-- Runs the program. -/
def run (files : Tree) (vars : Variables) (processors : Nat) (timestamp : Int) : ProgramResult :=
  match settings files vars processors with
  | .error cause => { failure := some (.settings cause), files }
  | .ok settings =>
      { runLoaded settings timestamp files with notices := notices files vars settings }

end Program

namespace ProgramResult

def exitCode (r : ProgramResult) : Nat := if r.failure.isSome then 1 else 0

/-- What the program has to say, in the order in which it says it. -/
def complaints (r : ProgramResult) : List String :=
  r.notices ++ (r.failure.map ProgramFailure.report).toList

/-- Whether the file under a path holds staging tables, if there is a file. -/
def isPrepared? (r : ProgramResult) (path : Path) : Option Bool :=
  match r.files.lookup path with
  | .ok (loc, .file content) =>
      if r.database = some loc then some r.staging.isPrepared
      else some (StagingPages.holdsTables ⟨content⟩)
  | _ => none

end ProgramResult

end LedgerMatch
