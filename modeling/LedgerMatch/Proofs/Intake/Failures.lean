import LedgerMatch.Proofs.Files.Contents
import LedgerMatch.Proofs.Intake

/-!
# Files that fail are left out

A file fails in a role if it cannot be opened, if there is no reader for its bank, if its header is
no text, if it breaks off, or if its reader gives way; rows that cannot be converted never fail it.
Such a file contributes nothing, not even the rows in front of the place where it broke off, and it
changes nothing about the other files: intake keeps what it would keep without it.
-/

namespace LedgerMatch

/-! ### Files that are left out -/

namespace FaultyFiles

/-- The files without those that are left out. -/
def leaveOut (fs : FaultyFiles) (out : Path → Bool) : FaultyFiles :=
  { fs with files := fs.files.keepOnly fun p => !out p }

theorem below_leaveOut (fs : FaultyFiles) (out : Path → Bool) (root : Path) :
    (fs.leaveOut out).files.below root = (fs.files.below root).filter fun p => !out p := by
  have hpaths : (fs.leaveOut out).files.paths = fs.files.paths.filter fun p => !out p := by
    rw [FlatFiles.paths, FlatFiles.paths, List.filter_map]
    rfl
  rw [FlatFiles.below, FlatFiles.below, hpaths, List.filter_comm]

/-- A file that is not left out is opened as before. -/
theorem openFile_leaveOut {fs : FaultyFiles} {out : Path → Bool} {p root : Path}
    (hp : p ∈ fs.files.below root) (hkept : out p = false) :
    (fs.leaveOut out).openFile p = fs.openFile p := by
  obtain ⟨e, he, rfl⟩ := List.mem_map.1 (List.mem_filter.1 hp).1
  have hmem : e ∈ (fs.leaveOut out).files.entries :=
    List.mem_filter.2 ⟨he, by simp [hkept]⟩
  rw [openFile, openFile, FlatFiles.find?_of_mem _ hmem, FlatFiles.find?_of_mem _ he]
  rfl

end FaultyFiles

/-! ### Sources that fail -/

/-- Whether a source gives way, breaks off, or has a header that is no text. -/
def Source.fails (hasHeader : Bool) : Source → Bool
  | .whole content => hasHeader && (Csv.records content).head?.any fun first => (Csv.texts? first).isNone
  | .broken .. => true
  | .crashing .. => true

namespace Csv

variable {α : Type} {layout : RowLayout α}

/-- The rows of a file are read unless it breaks off. -/
theorem RowLayout.Calm.decodeRows_isOk (h : layout.Calm) (file : Path) (line : Nat)
    (header : List String) (width : Nat) (rows : List RawRecord)
    (interruption : Option Interruption) :
    (layout.decodeRows file line header width rows interruption).1.isOk
      = interruption.isNone := by
  rw [decodeRows_of_calm fun raw _ => h.crashed?_outcome header width raw]
  rcases interruption with _ | fault | reason <;> rfl

/-- A file is read unless its source fails. -/
theorem RowLayout.Calm.decode_isOk (h : layout.Calm) (hasHeader : Bool) (file : Path)
    (source : Source) :
    (layout.decode hasHeader file source).1.isOk = !source.fails hasHeader := by
  -- a file that is not read to its end fails, whatever its records are
  have hstopped : ∀ raws interruption,
      (layout.decodeRecords hasHeader file raws (some interruption)).1.isOk = false := by
    intro raws interruption
    unfold decodeRecords
    dsimp only
    split
    · cases interruption <;> rfl
    · split
      · rfl
      · exact h.decodeRows_isOk ..
    · exact h.decodeRows_isOk ..
  cases source with
  | broken content fault => exact hstopped _ _
  | crashing reason => exact hstopped _ _
  | whole content =>
      show (layout.decodeRecords hasHeader file (records content) none).1.isOk = _
      rw [Source.fails]
      unfold decodeRecords
      dsimp only
      split
      · next hnone => rw [hnone]; rfl
      · next first rows hrecords =>
          rw [hrecords]
          split
          · next htexts => simp [htexts, Except.isOk, Except.toBool]
          · next header htexts =>
              rw [h.decodeRows_isOk]
              simp [htexts]
      · rw [h.decodeRows_isOk]
        rfl

end Csv

theorem ledgerLayout_calm (source : Path) : (ledgerLayout source).Calm := by
  intro cells reason hcrash
  rw [ledgerLayout] at hcrash
  dsimp only at hcrash
  split at hcrash
  · unfold Csv.Verdict.ofExcept at hcrash
    split at hcrash <;> cases hcrash
  · cases hcrash

theorem StatementReader.rowLayout_calm (reader : StatementReader) (source : Path) :
    (reader.rowLayout source).Calm := by
  intro cells reason hcrash
  unfold rowLayout Csv.Verdict.ofExcept at hcrash
  dsimp only at hcrash
  split at hcrash <;> cases hcrash

/-! ### Files that fail -/

section

variable {φ : Type} [FileSystem φ]

/-- Whether a file cannot be read as a ledger file. -/
def failsAsLedger (fs : φ) (hasHeader : Bool) (p : Path) : Bool :=
  match FileSystem.openFile fs p with
  | .error _ => true
  | .ok source => source.fails hasHeader

/-- Whether a file cannot be read as a statement file. -/
def failsAsStatement (fs : φ) (registry : Registry) (hasHeader : Bool) (file : StatementFile) : Bool :=
  match FileSystem.openFile fs file.path with
  | .error _ => true
  | .ok source =>
      match registry.reader file.bank with
      | .error _ => true
      | .ok reader => source.fails (reader.headerMode hasHeader)

theorem openLedgerFile_isOk (fs : φ) (hasHeader : Bool) (p : Path) :
    (openLedgerFile fs hasHeader p).1.isOk = !failsAsLedger fs hasHeader p := by
  rw [openLedgerFile, failsAsLedger]
  cases FileSystem.openFile fs p with
  | error fault => rfl
  | ok source => exact (ledgerLayout_calm p).decode_isOk hasHeader p source

theorem openStatementFile_isOk (fs : φ) (registry : Registry) (hasHeader : Bool)
    (file : StatementFile) :
    (openStatementFile fs registry hasHeader file).1.isOk
      = !failsAsStatement fs registry hasHeader file := by
  rw [openStatementFile, failsAsStatement]
  cases FileSystem.openFile fs file.path with
  | error fault => rfl
  | ok source =>
      dsimp only
      cases registry.reader file.bank with
      | error failure => rfl
      | ok reader =>
          exact (reader.rowLayout_calm file.path).decode_isOk _ file.path source

end

/-! ### Reading side by side -/

/-- What a file contributes: its records if it could be read, otherwise nothing. -/
def recordsOf {α : Type} : Except Failure (List α) → List α
  | .ok records => records
  | .error _ => []

section

variable {ι α : Type}

/-- The records that are read are those of the files, in the order of the files. -/
theorem readAll_records (schedule : Schedule) (read : ι → Except Failure (List α) × List Warning)
    (files : List ι) (log : List Warning) :
    (readAll schedule read files log).1 = files.flatMap fun file => recordsOf (read file).1 := by
  show (schedule.run (files.map (readTask read)) log).1.flatMap _ = _
  rw [Schedule.run_results (readTask read) (fun file => (read file).1) fun _ _ _ => rfl,
    List.flatMap_map]
  refine List.flatMap_congr fun file _ => ?_
  cases (read file).1 with
  | ok records => rfl
  | error failure => rfl

/-- Noting that a file is left out changes nothing about what it contributes. -/
theorem recordsOf_noteFailure (note : Failure → Warning)
    (result : Except Failure (List α) × List Warning) :
    recordsOf (noteFailure note result).1 = recordsOf result.1 := by
  obtain ⟨records | failure, warnings⟩ := result <;> rfl

theorem recordsOf_of_failed {result : Except Failure (List α)} (h : result.isOk = false) :
    recordsOf result = [] := by
  cases result with
  | ok records => cases h
  | error failure => rfl

theorem exists_of_mem_recordsOf {result : Except Failure (List α)} {record : α}
    (h : record ∈ recordsOf result) : ∃ records, result = .ok records ∧ record ∈ records := by
  cases result with
  | ok records => exact ⟨records, rfl, h⟩
  | error failure => cases h

/-- Files without records can be left out, and those that stay may be read anew. -/
theorem flatMap_filter_eq {out : ι → Bool} {rows rows' : ι → List α} {files : List ι}
    (hout : ∀ file ∈ files, out file = true → rows file = [])
    (hkept : ∀ file ∈ files, out file = false → rows' file = rows file) :
    (files.filter fun file => !out file).flatMap rows' = files.flatMap rows := by
  induction files with
  | nil => rfl
  | cons file rest ih =>
      obtain ⟨houtFile, houtRest⟩ := List.forall_mem_cons.1 hout
      obtain ⟨hkeptFile, hkeptRest⟩ := List.forall_mem_cons.1 hkept
      rw [List.flatMap_cons, ← ih houtRest hkeptRest]
      cases hfile : out file with
      | true =>
          rw [houtFile hfile, List.filter_cons_of_neg (by simp [hfile]), List.nil_append]
      | false =>
          rw [List.filter_cons_of_pos (by simp [hfile]), List.flatMap_cons, hkeptFile hfile]

end

/-! ### What a file contributes -/

section

variable {φ : Type} [FileSystem φ]

theorem readLedgerFile_failed {fs : φ} {hasHeader : Bool} {p : Path}
    (h : failsAsLedger fs hasHeader p = true) :
    recordsOf (readLedgerFile fs hasHeader p).1 = [] := by
  rw [readLedgerFile, recordsOf_noteFailure]
  exact recordsOf_of_failed (by rw [openLedgerFile_isOk, h]; rfl)

theorem readStatementFile_failed {fs : φ} {registry : Registry} {hasHeader : Bool}
    {file : StatementFile} (h : failsAsStatement fs registry hasHeader file = true) :
    recordsOf (readStatementFile fs registry hasHeader file).1 = [] := by
  rw [readStatementFile, recordsOf_noteFailure]
  exact recordsOf_of_failed (by rw [openStatementFile_isOk, h]; rfl)

/-- An entry comes from a file that does not fail. -/
theorem source_of_mem_readLedgerFile {fs : φ} {hasHeader : Bool} {p : Path} {e : LedgerEntry}
    (h : e ∈ recordsOf (readLedgerFile fs hasHeader p).1) :
    e.source = p ∧ failsAsLedger fs hasHeader p = false := by
  rw [readLedgerFile, recordsOf_noteFailure] at h
  obtain ⟨entries, hread, he⟩ := exists_of_mem_recordsOf h
  constructor
  · rw [openLedgerFile] at hread
    split at hread
    · cases hread
    · obtain ⟨id, time, direction, amount, hentry, -⟩ := exists_ofTexts_of_mem_readLedger hread he
      obtain ⟨-, time, direction, amount, rfl, -⟩ := LedgerEntry.origin_of_ofTexts hentry
      rfl
  · have hok := openLedgerFile_isOk fs hasHeader p
    rw [hread] at hok
    simpa [Except.isOk, Except.toBool] using hok

/-- A line comes from a file that does not fail. -/
theorem source_of_mem_readStatementFile {fs : φ} {registry : Registry} {hasHeader : Bool}
    {file : StatementFile} {l : StatementLine}
    (h : l ∈ recordsOf (readStatementFile fs registry hasHeader file).1) :
    l.source = file.path ∧ failsAsStatement fs registry hasHeader file = false := by
  rw [readStatementFile, recordsOf_noteFailure] at h
  obtain ⟨lines, hread, hl⟩ := exists_of_mem_recordsOf h
  constructor
  · rw [openStatementFile] at hread
    split at hread
    · cases hread
    · split at hread
      · cases hread
      · obtain ⟨id, date, amount, hline⟩ := StatementReader.exists_ofTexts_of_mem_read hread hl
        obtain ⟨-, date, amount, -, rfl⟩ := StatementLine.origin_of_ofTexts hline
        rfl
  · have hok := openStatementFile_isOk fs registry hasHeader file
    rw [hread] at hok
    simpa [Except.isOk, Except.toBool] using hok

/-- The entries of ledger files, in the order of the files. -/
def ledgerRows (fs : φ) (hasHeader : Bool) (files : List Path) : List LedgerEntry :=
  files.flatMap fun p => recordsOf (readLedgerFile fs hasHeader p).1

/-- The lines of statement files, in the order of the files. -/
def statementRows (fs : φ) (registry : Registry) (hasHeader : Bool) (files : List StatementFile) :
    List StatementLine :=
  files.flatMap fun file => recordsOf (readStatementFile fs registry hasHeader file).1

/-- Intake keeps the records of the files inside the window, whatever the schedule. -/
theorem Intake.read_eq {fs : φ} {ledgerRoot statementRoot : Path} {w : Window} {ledger : List Path}
    {statements : List StatementFile} (hledger : ledgerFiles fs ledgerRoot = .ok ledger)
    (hstatements : statementFiles fs statementRoot w = .ok statements) (registry : Registry)
    (schedule : Schedule) (hasHeader : Bool) :
    (Intake.read fs registry schedule hasHeader ledgerRoot statementRoot w).1
      = .ok (.inWindow w (ledgerRows fs hasHeader ledger)
          (statementRows fs registry hasHeader statements)) := by
  rw [Intake.read, hledger, hstatements]
  dsimp only
  rw [readAll_records, readAll_records]
  rfl

/-- What is kept was read from the files below roots that could both be listed. -/
theorem Intake.exists_files_of_read {fs : φ} {registry : Registry} {schedule : Schedule}
    {hasHeader : Bool} {ledgerRoot statementRoot : Path} {w : Window} {kept : Intake}
    (h : (Intake.read fs registry schedule hasHeader ledgerRoot statementRoot w).1 = .ok kept) :
    ∃ files statements, ledgerFiles fs ledgerRoot = .ok files ∧
      statementFiles fs statementRoot w = .ok statements ∧
      kept = .inWindow w (ledgerRows fs hasHeader files)
        (statementRows fs registry hasHeader statements) := by
  cases hfiles : ledgerFiles fs ledgerRoot with
  | error failure =>
      rw [Intake.read, hfiles] at h
      cases h
  | ok files =>
      cases hstatements : statementFiles fs statementRoot w with
      | error failure =>
          rw [Intake.read, hfiles] at h
          dsimp only at h
          rw [hstatements] at h
          cases h
      | ok statements =>
          rw [read_eq hfiles hstatements] at h
          exact ⟨files, statements, rfl, rfl, (Except.ok.inj h).symm⟩

end

/-! ### Leaving out the files that fail -/

namespace FaultyFiles

variable {fs : FaultyFiles} {root : Path} {out : Path → Bool}

/-- Listing does not look at what the files hold. -/
theorem walk_leaveOut {paths : List Path} (out : Path → Bool)
    (h : FileSystem.walk fs root = .ok paths) :
    paths = fs.files.below root ∧
      FileSystem.walk (fs.leaveOut out) root = .ok (paths.filter fun p => !out p) := by
  replace h : fs.walk root = .ok paths := h
  show _ ∧ (fs.leaveOut out).walk root = _
  rw [walk] at h ⊢
  by_cases hfault : Faults.covers fs.faults.walk root = true
  · rw [if_pos hfault] at h
    cases h
  · rw [if_neg hfault] at h
    cases h
    rw [below_leaveOut]
    exact ⟨rfl, if_neg hfault⟩

theorem ledgerFiles_leaveOut {paths : List Path} (h : FileSystem.walk fs root = .ok paths) :
    ledgerFiles (fs.leaveOut out) root
      = .ok ((paths.filter Path.isCsv).filter fun p => !out p) := by
  rw [ledgerFiles, (walk_leaveOut out h).2, List.filter_comm]

/-- Whether a path is that of a statement file which fails. -/
def statementFails (fs : FaultyFiles) (registry : Registry) (hasHeader : Bool) (w : Window)
    (p : Path) : Bool :=
  (StatementFile.ofPath? w p).any (failsAsStatement fs registry hasHeader)

theorem statementFiles_leaveOut {registry : Registry} {hasHeader : Bool} {w : Window}
    {paths : List Path} (h : FileSystem.walk fs root = .ok paths) :
    statementFiles (fs.leaveOut (fs.statementFails registry hasHeader w)) root w
      = .ok ((paths.filterMap (StatementFile.ofPath? w)).filter fun file =>
          !failsAsStatement fs registry hasHeader file) := by
  rw [statementFiles, (walk_leaveOut _ h).2]
  dsimp only
  rw [List.filterMap_filter, List.filter_filterMap]
  congr 2
  funext p
  rw [statementFails]
  cases StatementFile.ofPath? w p with
  | none => rfl
  | some file =>
      cases hfails : failsAsStatement fs registry hasHeader file <;> simp [Option.filter, hfails]

/-- Without the ledger files that fail, the entries are the same. -/
theorem ledgerRows_leaveOut {hasHeader : Bool} {paths : List Path}
    (h : FileSystem.walk fs root = .ok paths) :
    ledgerRows (fs.leaveOut (failsAsLedger fs hasHeader)) hasHeader
        ((paths.filter Path.isCsv).filter fun p => !failsAsLedger fs hasHeader p)
      = ledgerRows fs hasHeader (paths.filter Path.isCsv) := by
  refine flatMap_filter_eq (fun p _ hfails => readLedgerFile_failed hfails) ?_
  intro p hp hkept
  have hbelow : p ∈ fs.files.below root :=
    (walk_leaveOut (fun _ => false) h).1 ▸ List.mem_of_mem_filter hp
  have hopen : FileSystem.openFile (fs.leaveOut (failsAsLedger fs hasHeader)) p
      = FileSystem.openFile fs p := openFile_leaveOut hbelow hkept
  rw [readLedgerFile, readLedgerFile, openLedgerFile, openLedgerFile, hopen]

/-- Without the statement files that fail, the lines are the same. -/
theorem statementRows_leaveOut {registry : Registry} {hasHeader : Bool} {w : Window}
    {paths : List Path} (h : FileSystem.walk fs root = .ok paths) :
    statementRows (fs.leaveOut (fs.statementFails registry hasHeader w)) registry hasHeader
        ((paths.filterMap (StatementFile.ofPath? w)).filter fun file =>
          !failsAsStatement fs registry hasHeader file)
      = statementRows fs registry hasHeader (paths.filterMap (StatementFile.ofPath? w)) := by
  refine flatMap_filter_eq (fun file _ hfails => readStatementFile_failed hfails) ?_
  intro file hfile hkept
  obtain ⟨p, hp, hpath⟩ := List.mem_filterMap.1 hfile
  have hbelow : p ∈ fs.files.below root := (walk_leaveOut (fun _ => false) h).1 ▸ hp
  have hstays : fs.statementFails registry hasHeader w p = false := by
    rw [statementFails, hpath, Option.any_some, hkept]
  have hopen : FileSystem.openFile (fs.leaveOut (fs.statementFails registry hasHeader w)) file.path
      = FileSystem.openFile fs file.path := by
    rw [StatementFile.path_of_ofPath? hpath]
    exact openFile_leaveOut hbelow hstays
  rw [readStatementFile, readStatementFile, openStatementFile, openStatementFile, hopen]

end FaultyFiles

/-- Files that fail are left out as a whole, each in its own role: as long as both roots can be
listed, intake succeeds, with the entries and the range of amounts that it has without the ledger
files that fail, and with the lines that it has without the statement files that fail. Nothing is
kept of a file that fails. -/
theorem Intake.read_leaves_out_failing (fs : FaultyFiles) (registry : Registry)
    (schedule ledgerSchedule statementSchedule : Schedule)
    (hasHeader : Bool) (ledgerRoot statementRoot : Path) (w : Window)
    (hledger : ∃ paths, FileSystem.walk fs ledgerRoot = .ok paths)
    (hstatements : ∃ paths, FileSystem.walk fs statementRoot = .ok paths) :
    ∃ kept ledgerPart statementPart,
      (Intake.read fs registry schedule hasHeader ledgerRoot statementRoot w).1 = .ok kept ∧
      (Intake.read (fs.leaveOut (failsAsLedger fs hasHeader)) registry ledgerSchedule hasHeader
        ledgerRoot statementRoot w).1 = .ok ledgerPart ∧
      (Intake.read (fs.leaveOut (fs.statementFails registry hasHeader w)) registry
        statementSchedule hasHeader ledgerRoot statementRoot w).1 = .ok statementPart ∧
      kept = { ledgerPart with lines := statementPart.lines } ∧
      (∀ e ∈ kept.entries, failsAsLedger fs hasHeader e.source = false) ∧
      ∀ l ∈ kept.lines, ∃ file, StatementFile.ofPath? w l.source = some file ∧
        failsAsStatement fs registry hasHeader file = false := by
  obtain ⟨ledger, hledger⟩ := hledger
  obtain ⟨statements, hstatements⟩ := hstatements
  have hledgerFiles : ledgerFiles fs ledgerRoot = .ok (ledger.filter Path.isCsv) := by
    rw [ledgerFiles, hledger]
  have hstatementFiles : statementFiles fs statementRoot w
      = .ok (statements.filterMap (StatementFile.ofPath? w)) := by
    rw [statementFiles, hstatements]
  refine ⟨_, _, _, Intake.read_eq hledgerFiles hstatementFiles registry schedule hasHeader,
    Intake.read_eq (FaultyFiles.ledgerFiles_leaveOut hledger) (by
      rw [statementFiles, (FaultyFiles.walk_leaveOut _ hstatements).2]) registry ledgerSchedule
        hasHeader,
    Intake.read_eq (FaultyFiles.ledgerFiles_leaveOut hledger)
      (FaultyFiles.statementFiles_leaveOut hstatements) registry statementSchedule hasHeader,
    ?_, ?_, ?_⟩
  · rw [FaultyFiles.ledgerRows_leaveOut hledger,
      FaultyFiles.statementRows_leaveOut hstatements]
    rfl
  · intro e he
    obtain ⟨p, -, hmem⟩ := List.mem_flatMap.1 (List.mem_filter.1 he).1
    obtain ⟨hsource, hfails⟩ := source_of_mem_readLedgerFile hmem
    rw [hsource]
    exact hfails
  · intro l hl
    obtain ⟨file, hfile, hmem⟩ := List.mem_flatMap.1 (List.mem_filter.1 hl).1
    obtain ⟨p, -, hpath⟩ := List.mem_filterMap.1 hfile
    obtain ⟨hsource, hfails⟩ := source_of_mem_readStatementFile hmem
    refine ⟨file, ?_, hfails⟩
    rw [hsource, StatementFile.path_of_ofPath? hpath]
    exact hpath

def failingDay : Date := ⟨2025, 3, 9, by decide⟩

/-- A ledger file that breaks off behind a whole row, one that is read, a statement file whose
reader gives way behind a whole row, and one of a bank whose maker refuses it. -/
def failingFiles : FaultyFiles where
  files := .ofList
    [(⟨"system/a.csv"⟩, Text.encode
        "TrxID,TransactionTime,Type,Amount\nA,2025-03-09 10:00:00,DEBIT,5\nB,2025-03-09 11:00"),
      (⟨"system/b.csv"⟩, Text.encode
        "TrxID,TransactionTime,Type,Amount\nC,2025-03-09 10:00:00,DEBIT,7\n"),
      (⟨"bank/bca/c.csv"⟩, Text.encode "BCAUniqueIdentifier,BCADate,BCAAmount\nD,2025-03-09,5\n"),
      (⟨"bank/bni/d.csv"⟩, Text.encode "BNIUniqueIdentifier,BNIDate,BNIAmount\nE,2025-03-09,5\n")]
  faults := { broken := [(⟨"system/a.csv"⟩, 80)], crashAfter := [(⟨"bank/bca"⟩, 53)] }

def failingRegistry : Registry := Registry.standard.register "BNI" .refusing

def failingWindow : Window := ⟨failingDay, failingDay, ["BCA", "BNI"]⟩

theorem failingFiles_read_leaves_out :
    (∃ paths, FileSystem.walk failingFiles (⟨"system"⟩ : Path) = .ok paths) ∧
      (∃ paths, FileSystem.walk failingFiles (⟨"bank"⟩ : Path) = .ok paths) ∧
      failsAsLedger failingFiles true ⟨"system/a.csv"⟩ = true ∧
      failingFiles.statementFails failingRegistry true failingWindow ⟨"bank/bca/c.csv"⟩ = true ∧
      failingFiles.statementFails failingRegistry true failingWindow ⟨"bank/bni/d.csv"⟩ = true ∧
      ∃ kept ledgerPart statementPart,
        (Intake.read failingFiles failingRegistry .reversed true ⟨"system"⟩ ⟨"bank"⟩
          failingWindow).1 = .ok kept ∧
        (Intake.read (failingFiles.leaveOut (failsAsLedger failingFiles true)) failingRegistry
          .sequential true ⟨"system"⟩ ⟨"bank"⟩ failingWindow).1 = .ok ledgerPart ∧
        (Intake.read
          (failingFiles.leaveOut (failingFiles.statementFails failingRegistry true failingWindow))
          failingRegistry .sequential true ⟨"system"⟩ ⟨"bank"⟩ failingWindow).1
            = .ok statementPart ∧
        kept = { ledgerPart with lines := statementPart.lines } ∧
        (∀ e ∈ kept.entries, failsAsLedger failingFiles true e.source = false) ∧
        ∀ l ∈ kept.lines, ∃ file, StatementFile.ofPath? failingWindow l.source = some file ∧
          failsAsStatement failingFiles failingRegistry true file = false :=
  ⟨⟨_, rfl⟩, ⟨_, rfl⟩, by decide +kernel, by decide +kernel, by decide +kernel,
    Intake.read_leaves_out_failing failingFiles failingRegistry .reversed .sequential
      .sequential true ⟨"system"⟩ ⟨"bank"⟩ failingWindow ⟨_, rfl⟩ ⟨_, rfl⟩⟩

end LedgerMatch
