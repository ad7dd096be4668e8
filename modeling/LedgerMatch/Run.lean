import LedgerMatch.Intake
import LedgerMatch.Report
import LedgerMatch.Settings.Basic
import LedgerMatch.Staging.Call

/-!
# Runs

A run goes through seven stages: prepare the staging area, read the files, stage the ledger, stage
the statements, match, report, and discard the tables. It stops at the first stage that fails or
finds the run cancelled. However it ends, the staging area is closed once and the end is announced
once.
-/

namespace LedgerMatch

/-- What a run announces. -/
inductive Announcement where
  | stage (s : Stage)
  | finished
  deriving DecidableEq, Repr

def Announcement.text : Announcement → String
  | stage s => s.label
  | finished => "done"

/-- A run before it starts: its settings and window, how it reads statement files, the number of
its reports, the order in which its tasks finish, and the number of announced stages from which
on it is cancelled, if at all. -/
structure RunPlan where
  settings : Settings
  window : Window
  registry : Registry
  timestamp : Int
  schedule : Schedule := .sequential
  cancelledAt : Option Nat := none

/-- The plan of a run with valid settings. -/
def RunPlan.make (settings : Settings) (registry : Registry) (timestamp : Int)
    (cancelledAt : Option Nat) : Except Failure RunPlan := do
  settings.validate
  let window ← settings.window
  pure { settings, window, registry, timestamp, cancelledAt }

/-- The result of a run that went through all stages. -/
structure Outcome where
  summary : Summary
  files : ReportFiles
  deriving DecidableEq

/-- The staging area and the files that a run works on, and what it did so far. -/
structure RunState (σ φ : Type) where
  area : σ
  files : φ
  announced : List Announcement := []
  calls : List StagingCall := []
  warnings : List Warning := []

/-- A part of a run, which may fail and keeps what it did. -/
abbrev RunM (σ φ : Type) := ExceptT Failure (StateM (RunState σ φ))

namespace RunM

variable {σ φ α : Type}

/-- Calls an operation of the staging area. -/
def call (c : StagingCall) (op : σ → Except Failure α × σ) : RunM σ φ α := fun s =>
  let (result, area) := op s.area
  (result, { s with area, calls := s.calls ++ [c] })

/-- Announces something. -/
def announce (a : Announcement) : RunM σ φ Unit := fun s =>
  (.ok (), { s with announced := s.announced ++ [a] })

/-- Names the stage that a failure comes from. -/
def within (stage : Stage) (op : RunM σ φ α) : RunM σ φ α := fun s =>
  match op s with
  | (.ok a, s) => (.ok a, s)
  | (.error failure, s) => (.error (.stage stage failure), s)

end RunM

namespace RunPlan

/-- Cancelled once so many stages were announced. -/
def isCancelled (plan : RunPlan) (announced : Nat) : Bool :=
  match plan.cancelledAt with
  | none => false
  | some n => n ≤ announced

section

variable {σ φ α : Type}

/-- Enters a stage, unless the run is cancelled. -/
def stage (plan : RunPlan) (s : Stage) (op : RunM σ φ α) : RunM σ φ α := do
  if plan.isCancelled (← get).announced.length then throw .cancelled
  RunM.announce (.stage s)
  RunM.within s op

end

variable {σ φ : Type} [StagingArea σ] [FileSystem φ]

/-- Reads the input files. -/
def intake (plan : RunPlan) : RunM σ φ Intake := fun s =>
  let (result, warnings) := Intake.read s.files plan.registry plan.schedule plan.settings.hasHeader
    plan.settings.ledgerRoot plan.settings.statementRoot plan.window
  (result, { s with warnings := s.warnings ++ warnings })

/-- Where the reports of a run are written. -/
def report (plan : RunPlan) : ReportPlan :=
  ⟨plan.settings.reportRoot, plan.timestamp, plan.settings.clearReports⟩

/-- Writes the report files. -/
def writeFiles (plan : RunPlan) (matched : List MatchedRow) (entries : List OpenEntry)
    (lines : List OpenLine) : RunM σ φ ReportFiles := fun s =>
  let (result, warnings, files) :=
    writeReport plan.schedule plan.report matched entries lines s.files
  (result, { s with files, warnings := s.warnings ++ warnings })

/-- Asks the staging area for everything that is reported, and reports it. -/
def exportReport (plan : RunPlan) : RunM σ φ Outcome := do
  let summary ← RunM.call (.plain .summary) StagingArea.summary
  let matched ← RunM.call (.plain .matched) StagingArea.matched
  let entries ← RunM.call (.plain .openEntries) StagingArea.openEntries
  let lines ← RunM.call (.plain .openLines) StagingArea.openLines
  let files ← plan.writeFiles matched entries lines
  pure ⟨summary, files⟩

/-- Stages ledger entries, if there are any. -/
def stageEntries (plan : RunPlan) (entries : List LedgerEntry) : RunM σ φ Unit :=
  let chunks := plan.settings.workers
  if entries = [] then pure ()
  else RunM.call (.importEntries entries.length chunks) (StagingArea.importEntries · entries chunks)

/-- Stages statement lines, if there are any. -/
def stageLines (plan : RunPlan) (lines : List StatementLine) : RunM σ φ Unit :=
  let chunks := plan.settings.workers * 2
  if lines = [] then pure ()
  else RunM.call (.importLines lines.length chunks) (StagingArea.importLines · lines chunks)

/-- Matches the staged rows, if there are ledger entries. -/
def matchRecords (plan : RunPlan) (records : Intake) : RunM σ φ Unit :=
  let buckets := plan.settings.workers * 2
  if records.entries = [] then pure ()
  else RunM.call (.matchAmounts records.smallest records.largest buckets)
    (StagingArea.matchAmounts · records.smallest records.largest buckets)

/-- Removes the staging tables, unless they are to be kept. -/
def discardTables (plan : RunPlan) : RunM σ φ Unit :=
  if plan.settings.isDebug then pure () else RunM.call (.plain .discard) StagingArea.discard

/-- The seven stages. -/
def stages (plan : RunPlan) : RunM σ φ Outcome := do
  plan.stage .prepare (RunM.call (.plain .prepare) (StagingArea.prepare · plan.window))
  let records ← plan.stage .intake plan.intake
  plan.stage .stageLedger (plan.stageEntries records.entries)
  plan.stage .stageStatements (plan.stageLines records.lines)
  plan.stage .matching (plan.matchRecords records)
  let outcome ← plan.stage .reporting plan.exportReport
  plan.stage .discard plan.discardTables
  pure outcome

/-- Closes the staging area and announces the end, whatever closing returns. -/
def conclude (s : RunState σ φ) : RunState σ φ :=
  let (_, s) := RunM.call (.plain .close) StagingArea.close s
  { s with announced := s.announced ++ [.finished] }

/-- A whole run on a staging area and files. -/
def run (plan : RunPlan) (area : σ) (files : φ) : Except Failure Outcome × RunState σ φ :=
  let (result, s) := plan.stages { area, files }
  (result, conclude s)

end RunPlan

end LedgerMatch
