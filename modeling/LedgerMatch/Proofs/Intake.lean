import LedgerMatch.Intake
import LedgerMatch.Proofs.Calendar.Reader
import LedgerMatch.Proofs.Csv.Columns
import LedgerMatch.Proofs.Csv.Decoder
import LedgerMatch.Proofs.Discovery
import LedgerMatch.Proofs.Schedule

/-!
# Intake does not depend on the schedule

Reading files side by side gives the same records under all schedules, and the same warnings in some
order. The records lie inside the window, and the times of entries have no fraction of a second. The
banks of the lines that are read hold no slash, as long as the readers add none.
-/

namespace LedgerMatch

/-! ### Reading side by side -/

section

variable {ι α : Type}

/-- The task of reading a file. -/
def readTask (read : ι → Except Failure (List α) × List Warning) (file : ι) (log : List Warning) :
    Except Failure (List α) × List Warning :=
  ((read file).1, log ++ (read file).2)

theorem independent_readTask (read : ι → Except Failure (List α) × List Warning) (files : List ι) :
    Schedule.Independent List.Perm (files.map (readTask read)) where
  equivalence := ⟨List.Perm.refl, List.Perm.symm, List.Perm.trans⟩
  respects := by
    intro task htask s u hsu
    obtain ⟨file, -, rfl⟩ := List.mem_map.1 htask
    exact ⟨rfl, hsu.append_right _⟩
  apart := by
    rw [List.pairwise_map]
    refine List.pairwise_of_forall ?_
    intro file other
    refine ⟨fun _ => rfl, fun _ => rfl, fun s => ?_⟩
    show ((s ++ _) ++ _).Perm ((s ++ _) ++ _)
    rw [List.append_assoc, List.append_assoc]
    exact List.perm_append_comm.append_left s

/-- The records that are read do not depend on the schedule, nor do the warnings but for their
order. -/
theorem readAll_schedule (schedule schedule' : Schedule)
    (read : ι → Except Failure (List α) × List Warning) (files : List ι)
    {log log' : List Warning} (h : log.Perm log') :
    (readAll schedule read files log).1 = (readAll schedule' read files log').1 ∧
      (readAll schedule read files log).2.Perm (readAll schedule' read files log').2 := by
  have hrun := (independent_readTask read files).run_agree schedule schedule' h
  refine ⟨?_, hrun.2⟩
  show List.flatMap _ (schedule.run (files.map (readTask read)) log).1
    = List.flatMap _ (schedule'.run (files.map (readTask read)) log').1
  rw [hrun.1]

/-- A record that is read comes from one of the files. -/
theorem exists_of_mem_readAll {schedule : Schedule}
    {read : ι → Except Failure (List α) × List Warning} {files : List ι} {log : List Warning}
    {record : α} (h : record ∈ (readAll schedule read files log).1) :
    ∃ file ∈ files, ∃ records, (read file).1 = .ok records ∧ record ∈ records := by
  obtain ⟨result, hresult, hrecord⟩ := List.mem_flatMap.1 h
  obtain ⟨task, htask, u, rfl⟩ := Schedule.exists_of_mem_run hresult
  obtain ⟨file, hfile, rfl⟩ := List.mem_map.1 htask
  cases hread : (read file).1 with
  | error failure =>
      simp only [hread] at hrecord
      cases hrecord
  | ok records =>
      simp only [hread] at hrecord
      exact ⟨file, hfile, records, hread, hrecord⟩

end

/-! ### Records and their texts -/

theorem Csv.Verdict.eq_ok_of_ofExcept {α : Type} {result : Except String α} {record : α}
    (h : ofExcept result = .keep record) : result = .ok record := by
  cases result with
  | ok value =>
      cases h
      rfl
  | error reason => cases h

/-! ### Where records come from -/

/-- The time of an entry is read along a layout that has no place for a fraction of a second. -/
theorem Timestamp.billionths_of_ofText {text : String} {t : Timestamp} (h : ofText text = .ok t) :
    t.billionths = 0 := by
  rw [ofText] at h
  split at h
  · next hlayout =>
      cases h
      exact Timestamp.billionths_of_read hlayout
  · cases h

/-- An entry has the identifier and the path that it is made with, a time that was read, and an amount
that was read and is not negative. -/
theorem LedgerEntry.origin_of_ofTexts {source : Path} {id time direction amount : String}
    {e : LedgerEntry} (h : ofTexts source id time direction amount = .ok e) :
    id ≠ "" ∧ ∃ time direction a, e = ⟨id, time, direction, a, source⟩ ∧
      time.billionths = 0 ∧ Amount.ofText amount = .ok a ∧ a.isNegative = false := by
  rw [ofTexts] at h
  by_cases hid : id = ""
  · rw [if_pos hid] at h
    cases h
  · rw [if_neg hid] at h
    obtain ⟨t, htime, h⟩ := bind_eq_ok.1 h
    obtain ⟨direction, -, h⟩ := bind_eq_ok.1 h
    obtain ⟨a, hamount, h⟩ := bind_eq_ok.1 h
    by_cases hnegative : a.isNegative = true
    · rw [if_pos hnegative] at h
      cases h
    · rw [if_neg hnegative] at h
      cases h
      exact ⟨hid, t, direction, a, rfl, Timestamp.billionths_of_ofText (mapError_eq_ok.1 htime),
        mapError_eq_ok.1 hamount, eq_false_of_ne_true hnegative⟩

/-- An entry that is read is made of four texts, and its identifier has no blanks around it. -/
theorem exists_ofTexts_of_mem_readLedger {hasHeader : Bool} {file : Path} {source : Source}
    {entries : List LedgerEntry} (h : (readLedger hasHeader file source).1 = .ok entries)
    {e : LedgerEntry} (he : e ∈ entries) :
    ∃ id time direction amount, LedgerEntry.ofTexts file id time direction amount = .ok e ∧
      Text.trim id = id := by
  obtain ⟨raw, header, row, cells, htexts, hbound, hcells⟩ := Csv.RowLayout.exists_of_mem_decode h he
  rw [ledgerLayout] at hcells
  dsimp only at hcells
  split at hcells
  · next id time direction amount =>
      have hid : id ∈ row := Csv.mem_of_bindRow hbound List.mem_cons_self
      exact ⟨id, time, direction, amount, Csv.Verdict.eq_ok_of_ofExcept hcells,
        Csv.trim_of_mem_texts? htexts hid⟩
  · cases hcells

theorem billionths_of_mem_readLedger {hasHeader : Bool} {file : Path} {source : Source}
    {entries : List LedgerEntry} (h : (readLedger hasHeader file source).1 = .ok entries)
    {e : LedgerEntry} (he : e ∈ entries) : e.time.billionths = 0 := by
  obtain ⟨id, time, direction, amount, hentry, -⟩ := exists_ofTexts_of_mem_readLedger h he
  obtain ⟨-, time, direction, amount, rfl, hwhole, -⟩ := LedgerEntry.origin_of_ofTexts hentry
  exact hwhole

/-! ### Banks -/

/-- Readers that keep the code of a bank free of slashes. All layouts of the standard registry do. -/
def Registry.AddsNoSlash (registry : Registry) : Prop :=
  ∀ code reader, registry.reader code = .ok reader → Text.IsPlain code → Text.IsPlain reader.bank

/-- Makers that keep the code of a bank free of slashes. -/
def ReaderMaker.AddsNoSlash (maker : ReaderMaker) : Prop :=
  ∀ code reader, maker code = .ok reader → Text.IsPlain code → Text.IsPlain reader.bank

theorem ReaderMaker.addsNoSlash_ofLayout (kind : StatementKind) (layout : StatementLayout)
    (headerMode : Bool → Bool) : (ofLayout kind layout headerMode).AddsNoSlash := by
  intro code reader h hplain
  cases h
  exact Text.isPlain_canonicalBank hplain

/-- The maker for a code is registered, under the code or as the default. -/
theorem Registry.exists_mem_of_lookup {registry : Registry} {code : String} {maker : ReaderMaker}
    (h : (registry.makers.lookup code).or (registry.makers.lookup "DEFAULT") = some maker) :
    ∃ m ∈ registry.makers, m.2 = maker := by
  have hlookup : ∀ {key}, registry.makers.lookup key = some maker →
      ∃ m ∈ registry.makers, m.2 = maker := by
    intro key hkey
    obtain ⟨front, behind, hmakers, -⟩ := List.lookup_eq_some_iff.1 hkey
    exact ⟨(key, maker), by rw [hmakers]; simp, rfl⟩
  rcases Option.or_eq_some_iff.1 h with hown | ⟨-, hdefault⟩
  · exact hlookup hown
  · exact hlookup hdefault

/-- Readers add no slash if their makers do not. -/
theorem Registry.addsNoSlash_of_makers {registry : Registry}
    (h : ∀ m ∈ registry.makers, ReaderMaker.AddsNoSlash m.2) : registry.AddsNoSlash := by
  intro code reader hreader hplain
  rw [Registry.reader] at hreader
  split at hreader
  · next hmaker =>
      obtain ⟨m, hm, rfl⟩ := exists_mem_of_lookup hmaker
      exact h m hm _ _ hreader (Text.isPlain_canonicalBank hplain)
  · cases hreader

/-- What holds of all makers still holds after one more of the kind is registered. -/
theorem Registry.makers_register {suits : ReaderMaker → Prop} {registry : Registry}
    {maker : ReaderMaker} (code : String) (h : ∀ m ∈ registry.makers, suits m.2)
    (hmaker : suits maker) : ∀ m ∈ (registry.register code maker).makers, suits m.2 := by
  intro m hm
  rcases List.mem_cons.1 hm with rfl | hold
  · exact hmaker
  · exact h m (List.mem_filter.1 hold).1

/-- Makers that have one of the kinds for all banks. -/
def ReaderMaker.HasOneKind (maker : ReaderMaker) : Prop := ∃ kind, maker = ofKind kind

theorem Registry.standard_makers : ∀ m ∈ standard.makers, ReaderMaker.HasOneKind m.2 := by
  refine makers_register _ (makers_register _ (makers_register _ ?_ ?_) ?_) ?_
  · intro m hm
    cases hm
  · exact ⟨_, rfl⟩
  · exact ⟨_, rfl⟩
  · exact ⟨_, rfl⟩

theorem Registry.standard_addsNoSlash : standard.AddsNoSlash := by
  apply addsNoSlash_of_makers
  intro m hm
  obtain ⟨kind, hkind⟩ := standard_makers m hm
  rw [hkind]
  exact ReaderMaker.addsNoSlash_ofLayout kind kind.layout id

/-- The code of a bank stands between two slashes, and holds none. -/
theorem StatementFile.isPlain_bank {w : Window} {p : Path} {f : StatementFile}
    (h : StatementFile.ofPath? w p = some f) : Text.IsPlain f.bank := by
  obtain ⟨code, ⟨stem, letters, hparts, -⟩, -, rfl⟩ := ofPath?_eq_some_iff.1 h
  obtain ⟨front, first, second, -, -, -, hcode, -⟩ := hparts
  apply Text.isPlain_upper
  intro hmem
  exact absurd (hcode '/' hmem) (by decide)

/-- The path of a statement file is the one it was found under. -/
theorem StatementFile.path_of_ofPath? {w : Window} {p : Path} {file : StatementFile}
    (h : ofPath? w p = some file) : file.path = p := by
  obtain ⟨code, -, -, rfl⟩ := ofPath?_eq_some_iff.1 h
  rfl

/-- A line has the identifier, the bank and the path that it is made with, and an amount that was
read, with its direction. -/
theorem StatementLine.origin_of_ofTexts {source : Path} {bank id date amount : String}
    {l : StatementLine} (h : ofTexts source bank id date amount = .ok l) :
    id ≠ "" ∧ ∃ date a, Amount.ofText amount = .ok a ∧ l = .ofSigned id date a bank source := by
  rw [ofTexts] at h
  by_cases hid : id = ""
  · rw [if_pos hid] at h
    cases h
  · rw [if_neg hid] at h
    obtain ⟨date, -, h⟩ := bind_eq_ok.1 h
    obtain ⟨a, hamount, h⟩ := bind_eq_ok.1 h
    cases h
    exact ⟨hid, date, a, mapError_eq_ok.1 hamount, rfl⟩

theorem StatementReader.ofLayout_canonicalBank (kind : StatementKind) (layout : StatementLayout)
    (headerMode : Bool → Bool) (code : String) :
    ofLayout kind layout headerMode (canonicalBank code) = ofLayout kind layout headerMode code := by
  rw [ofLayout, ofLayout, Text.canonicalBank_canonicalBank]

/-- A line that is read is made of the cells of a row. -/
theorem StatementReader.exists_cells_of_mem_read {reader : StatementReader} {hasHeader : Bool}
    {file : Path} {source : Source} {lines : List StatementLine}
    (h : (reader.read hasHeader file source).1 = .ok lines) {l : StatementLine} (hl : l ∈ lines) :
    ∃ raw header row cells, Csv.texts? raw = some row ∧
      Csv.bindRow reader.layout.columns header row = .ok cells ∧
      StatementLine.ofTexts file reader.bank (reader.layout.texts cells).id
        (reader.layout.texts cells).date (reader.layout.texts cells).amount = .ok l := by
  obtain ⟨raw, header, row, cells, htexts, hbound, hcells⟩ := Csv.RowLayout.exists_of_mem_decode h hl
  exact ⟨raw, header, row, cells, htexts, hbound, Csv.Verdict.eq_ok_of_ofExcept hcells⟩

/-- A line that is read is made of three texts. -/
theorem StatementReader.exists_ofTexts_of_mem_read {reader : StatementReader} {hasHeader : Bool}
    {file : Path} {source : Source} {lines : List StatementLine}
    (h : (reader.read hasHeader file source).1 = .ok lines) {l : StatementLine} (hl : l ∈ lines) :
    ∃ id date amount, StatementLine.ofTexts file reader.bank id date amount = .ok l := by
  obtain ⟨_, _, _, cells, -, -, hline⟩ := exists_cells_of_mem_read h hl
  exact ⟨_, _, _, hline⟩

/-- The texts of columns that hold them as they are have no blanks around them. -/
theorem StatementLayout.trim_id_ofNames {id date amount : String} {raw : Csv.RawRecord}
    {header row : List String} {cells : List Csv.Cell} (htexts : Csv.texts? raw = some row)
    (hbound : Csv.bindRow (ofNames id date amount).columns header row = .ok cells) :
    Text.trim ((ofNames id date amount).texts cells).id
      = ((ofNames id date amount).texts cells).id := by
  rw [ofNames]
  dsimp only
  split
  · exact Csv.trim_of_mem_texts? htexts (Csv.mem_of_bindRow hbound List.mem_cons_self)
  · rfl

/-- The identifier of a line that a reader of one of the kinds reads has no blanks around it. -/
theorem StatementReader.trim_id_of_mem_read {kind : StatementKind} {code : String}
    {hasHeader : Bool} {file : Path} {source : Source} {lines : List StatementLine}
    (h : ((ofKind kind code).read hasHeader file source).1 = .ok lines) {l : StatementLine}
    (hl : l ∈ lines) : Text.trim l.id = l.id := by
  obtain ⟨raw, header, row, cells, htexts, hbound, hline⟩ := exists_cells_of_mem_read h hl
  obtain ⟨-, date, a, -, rfl⟩ := StatementLine.origin_of_ofTexts hline
  cases kind <;> exact StatementLayout.trim_id_ofNames htexts hbound

/-- The lines of a reader are lines of its bank. -/
theorem StatementReader.bank_of_mem_read {reader : StatementReader} {hasHeader : Bool} {file : Path}
    {source : Source} {lines : List StatementLine}
    (h : (reader.read hasHeader file source).1 = .ok lines) {l : StatementLine} (hl : l ∈ lines) :
    l.bank = Text.upper reader.bank := by
  obtain ⟨id, date, amount, hline⟩ := exists_ofTexts_of_mem_read h hl
  obtain ⟨-, date, amount, -, rfl⟩ := StatementLine.origin_of_ofTexts hline
  rfl

/-! ### The whole intake -/

section

variable {φ : Type} [FileSystem φ]

/-- A file that is not left out is one that could be read. -/
theorem eq_ok_of_noteFailure {α : Type} {note : Failure → Warning}
    {result : Except Failure (List α) × List Warning} {records : List α}
    (h : (noteFailure note result).1 = .ok records) : result.1 = .ok records := by
  unfold noteFailure at h
  split at h
  · exact h
  · cases h

theorem billionths_of_readLedgerFile {fs : φ} {hasHeader : Bool} {file : Path}
    {entries : List LedgerEntry} (h : (readLedgerFile fs hasHeader file).1 = .ok entries)
    {e : LedgerEntry} (he : e ∈ entries) : e.time.billionths = 0 := by
  have hopen := eq_ok_of_noteFailure h
  rw [openLedgerFile] at hopen
  split at hopen
  · cases hopen
  · exact billionths_of_mem_readLedger hopen he

/-- A file that could be read is one that could be opened, decoded by the reader of its bank. -/
theorem exists_reader_of_readStatementFile {fs : φ} {registry : Registry} {hasHeader : Bool}
    {file : StatementFile} {lines : List StatementLine}
    (h : (readStatementFile fs registry hasHeader file).1 = .ok lines) :
    ∃ reader, registry.reader file.bank = .ok reader ∧
      ∀ l ∈ lines, l.bank = Text.upper reader.bank := by
  have hopen := eq_ok_of_noteFailure h
  rw [openStatementFile] at hopen
  split at hopen
  · cases hopen
  · split at hopen
    · cases hopen
    · next reader hreader =>
        exact ⟨reader, hreader, fun l hl => StatementReader.bank_of_mem_read hopen hl⟩

theorem isPlain_bank_of_readStatementFile {fs : φ} {registry : Registry} {hasHeader : Bool}
    {file : StatementFile} {lines : List StatementLine} (hregistry : registry.AddsNoSlash)
    (hfile : Text.IsPlain file.bank)
    (h : (readStatementFile fs registry hasHeader file).1 = .ok lines) {l : StatementLine}
    (hl : l ∈ lines) : Text.IsPlain l.bank := by
  obtain ⟨reader, hreader, hbank⟩ := exists_reader_of_readStatementFile h
  rw [hbank l hl]
  exact Text.isPlain_upper (hregistry _ _ hreader hfile)

/-- The banks of the lines that are taken in hold no slash. -/
theorem Intake.isPlain_bank_of_read {fs : φ} {registry : Registry} {schedule : Schedule}
    {hasHeader : Bool} {ledgerRoot statementRoot : Path} {w : Window} {records : Intake}
    (hregistry : registry.AddsNoSlash)
    (h : (Intake.read fs registry schedule hasHeader ledgerRoot statementRoot w).1 = .ok records) :
    ∀ l ∈ records.lines, Text.IsPlain l.bank := by
  rw [Intake.read] at h
  split at h
  · cases h
  · split at h
    · cases h
    · next files hfiles =>
        cases h
        intro l hl
        obtain ⟨file, hfile, lines, hread, hmem⟩ :=
          exists_of_mem_readAll (List.mem_filter.1 hl).1
        refine isPlain_bank_of_readStatementFile hregistry ?_ hread hmem
        rw [statementFiles] at hfiles
        split at hfiles
        · cases hfiles
          obtain ⟨path, -, hpath⟩ := List.mem_filterMap.1 hfile
          exact StatementFile.isPlain_bank hpath
        · cases hfiles

/-- What is taken in lies inside the window, at whole seconds. -/
structure Intake.Fits (w : Window) (records : Intake) : Prop where
  keepsEntry : ∀ e ∈ records.entries, w.keepsEntry e = true
  keepsLine : ∀ l ∈ records.lines, w.keepsLine l = true
  whole : ∀ e ∈ records.entries, e.time.billionths = 0

theorem Intake.fits_of_read {fs : φ} {registry : Registry} {schedule : Schedule}
    {hasHeader : Bool} {ledgerRoot statementRoot : Path} {w : Window} {records : Intake}
    (h : (Intake.read fs registry schedule hasHeader ledgerRoot statementRoot w).1 = .ok records) :
    records.Fits w := by
  rw [Intake.read] at h
  split at h
  · cases h
  · split at h
    · cases h
    · cases h
      refine ⟨fun e he => (List.mem_filter.1 he).2, fun l hl => (List.mem_filter.1 hl).2, ?_⟩
      intro e he
      obtain ⟨file, -, entries, hread, hmem⟩ := exists_of_mem_readAll (List.mem_filter.1 he).1
      exact billionths_of_readLedgerFile hread hmem

/-- What is taken in does not depend on the schedule, nor do the warnings but for their order. -/
theorem Intake.read_schedule (schedule schedule' : Schedule) (fs : φ) (registry : Registry)
    (hasHeader : Bool) (ledgerRoot statementRoot : Path) (w : Window) :
    (Intake.read fs registry schedule hasHeader ledgerRoot statementRoot w).1
        = (Intake.read fs registry schedule' hasHeader ledgerRoot statementRoot w).1 ∧
      (Intake.read fs registry schedule hasHeader ledgerRoot statementRoot w).2.Perm
        (Intake.read fs registry schedule' hasHeader ledgerRoot statementRoot w).2 := by
  unfold Intake.read
  split
  · exact ⟨rfl, .refl _⟩
  · next ledger _ =>
      split
      · exact ⟨rfl, .refl _⟩
      · next statements _ =>
          have hledger := readAll_schedule schedule schedule' (readLedgerFile fs hasHeader) ledger
            (.refl [])
          have hlines := readAll_schedule schedule schedule'
            (readStatementFile fs registry hasHeader) statements hledger.2
          dsimp only
          rw [hledger.1, hlines.1]
          exact ⟨rfl, hlines.2⟩

end

/-! ### Places that read alike -/

section

variable {φ φ' : Type} [FileSystem φ] [FileSystem φ'] {fs : φ} {fs' : φ'}

/-- Two places that list the same files below a root and open them alike. -/
structure ReadsAlike (root : Path) (fs : φ) (fs' : φ') : Prop where
  walk : FileSystem.walk fs root = FileSystem.walk fs' root
  openFile : ∀ paths, FileSystem.walk fs root = .ok paths → ∀ p ∈ paths,
    FileSystem.openFile fs p = FileSystem.openFile fs' p

/-- Files that are read alike have the same records. -/
theorem readAll_congr {ι α : Type} {read read' : ι → Except Failure (List α) × List Warning}
    {files : List ι} (h : ∀ file ∈ files, read file = read' file) (schedule : Schedule)
    (log : List Warning) : readAll schedule read files log = readAll schedule read' files log := by
  have htasks : files.map (readTask read) = files.map (readTask read') := by
    refine List.map_congr_left fun file hfile => ?_
    funext log
    rw [readTask, readTask, h file hfile]
  unfold readTask at htasks
  unfold readAll
  dsimp only
  rw [htasks]

/-- Intake depends on what lies below the two roots alone. -/
theorem Intake.read_congr {ledgerRoot statementRoot : Path} (hledger : ReadsAlike ledgerRoot fs fs')
    (hstatements : ReadsAlike statementRoot fs fs') (registry : Registry) (schedule : Schedule)
    (hasHeader : Bool) (w : Window) :
    Intake.read fs registry schedule hasHeader ledgerRoot statementRoot w
      = Intake.read fs' registry schedule hasHeader ledgerRoot statementRoot w := by
  have hledgerFiles : ledgerFiles fs ledgerRoot = ledgerFiles fs' ledgerRoot := by
    rw [ledgerFiles, ledgerFiles, hledger.walk]
  have hstatementFiles : statementFiles fs statementRoot w = statementFiles fs' statementRoot w := by
    rw [statementFiles, statementFiles, hstatements.walk]
  have hledgerOpen : ∀ files, ledgerFiles fs ledgerRoot = .ok files → ∀ file ∈ files,
      readLedgerFile fs hasHeader file = readLedgerFile fs' hasHeader file := by
    intro files hfiles file hfile
    rw [ledgerFiles] at hfiles
    split at hfiles
    · next paths hpaths =>
        cases hfiles
        have hopen := hledger.openFile paths hpaths file (List.mem_of_mem_filter hfile)
        rw [readLedgerFile, readLedgerFile, openLedgerFile, openLedgerFile, hopen]
    · cases hfiles
  have hstatementOpen : ∀ files, statementFiles fs statementRoot w = .ok files → ∀ file ∈ files,
      readStatementFile fs registry hasHeader file
        = readStatementFile fs' registry hasHeader file := by
    intro files hfiles file hfile
    rw [statementFiles] at hfiles
    split at hfiles
    · next paths hpaths =>
        cases hfiles
        obtain ⟨p, hp, hpath⟩ := List.mem_filterMap.1 hfile
        have hopen := hstatements.openFile paths hpaths p hp
        rw [← StatementFile.path_of_ofPath? hpath] at hopen
        rw [readStatementFile, readStatementFile, openStatementFile, openStatementFile, hopen]
    · cases hfiles
  rw [Intake.read, Intake.read, ← hledgerFiles, ← hstatementFiles]
  split
  · rfl
  · next ledger hledgerOk =>
      split
      · rfl
      · next statements hstatementsOk =>
          rw [readAll_congr (hledgerOpen ledger hledgerOk)]
          dsimp only
          rw [readAll_congr (hstatementOpen statements hstatementsOk)]

end

end LedgerMatch
