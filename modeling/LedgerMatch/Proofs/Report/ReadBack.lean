import LedgerMatch.Intake
import LedgerMatch.Proofs.Amount.Text
import LedgerMatch.Proofs.Calendar.Reader
import LedgerMatch.Proofs.Csv.RoundTrip
import LedgerMatch.Proofs.Report.Refusals

/-!
# Rows left over are read back from reports

The file of the ledger entries left over has the layout of ledger files, and the file of a bank has
the columns that the common layout of statement files asks for, and two more. Each row that such a
layout allows is read back with all that it said; only a zero loses its sign.
-/

namespace LedgerMatch

/-! ### Ledger entries -/

theorem Direction.trim_text (d : Direction) : Text.trim d.text = d.text := by
  cases d <;> decide

theorem Direction.ofText_text (d : Direction) : ofText d.text = .ok d := by
  cases d <;> rfl

namespace OpenEntry

/-- A row that ledger files allow. -/
structure IsReadable (r : OpenEntry) : Prop where
  id_ne : r.id ≠ ""
  id_trimmed : Text.trim r.id = r.id
  wholeSecond : r.time.billionths = 0
  not_negative : r.amount.isNegative = false

/-- The entry that is read back from a row. Only the sign of a zero amount is not read back. -/
def toEntry (r : OpenEntry) (source : Path) : LedgerEntry :=
  ⟨r.id, r.time, r.direction, r.amount.plainForm, source⟩

theorem isHeader : Csv.IsHeader header := ⟨⟨'T', _, rfl, by decide⟩, by decide, by decide⟩

variable {r : OpenEntry}

theorem ofTexts_texts (h : r.IsReadable) (source : Path) :
    LedgerEntry.ofTexts source r.id r.time.text r.direction.text r.amount.text
      = .ok (r.toEntry source) := by
  rw [LedgerEntry.ofTexts, if_neg h.id_ne, Timestamp.ofText_text h.wholeSecond,
    Direction.ofText_text, Amount.ofText_text]
  simp only [Except.mapError, bind, Except.bind, Amount.isNegative_plainForm, h.not_negative]
  rfl

theorem IsReadable.keeps (h : r.IsReadable) (source : Path) :
    (ledgerLayout source).Keeps header r.texts (r.toEntry source) where
  length := by simp [texts, header]
  converted := by
    have htrimmed : r.texts.map Text.trim = r.texts := by
      simp only [texts, List.map_cons, List.map_nil, h.id_trimmed, Timestamp.trim_text,
        Direction.trim_text, Amount.trim_text]
    have hverdict := congrArg Csv.Verdict.ofExcept (ofTexts_texts h source)
    rw [htrimmed]
    exact ⟨_, rfl, hverdict⟩

end OpenEntry

/-- A ledger file with rows left over is read as these rows. -/
theorem readLedger_texts {entries : List OpenEntry} (h : ∀ r ∈ entries, r.IsReadable)
    (file : Path) :
    readLedger true file
        (.whole (Text.encode (Csv.document OpenEntry.header (entries.map OpenEntry.texts))))
      = (.ok (entries.map (·.toEntry file)), []) :=
  Csv.RowLayout.decode_document OpenEntry.isHeader (fun r hr => (h r hr).keeps file) file

/-! ### Statement lines -/

namespace OpenLine

/-- A row that statement files of a bank allow. -/
structure IsReadable (code : String) (r : OpenLine) : Prop where
  id_ne : r.id ≠ ""
  id_trimmed : Text.trim r.id = r.id
  bank_canonical : r.bank = canonicalBank code
  direction_signed : r.direction = .ofAmount r.amount

/-- The line that is read back from a row. Only the sign of a zero amount is not read back. -/
def toLine (r : OpenLine) (source : Path) : StatementLine :=
  ⟨r.id, r.date, r.direction, r.bank, r.amount.plainForm, source⟩

theorem isHeader : Csv.IsHeader header := ⟨⟨'U', _, rfl, by decide⟩, by decide, by decide⟩

variable {code : String} {r : OpenLine}

theorem ofTexts_texts (h : r.IsReadable code) (source : Path) :
    StatementLine.ofTexts source (canonicalBank code) r.id r.date.text r.amount.text
      = .ok (r.toLine source) := by
  have hbank : Text.upper (canonicalBank code) = r.bank := by
    rw [h.bank_canonical, canonicalBank, Text.upper_upper]
  have hdirection : Direction.ofAmount r.amount.plainForm = r.direction := by
    rw [h.direction_signed, Direction.ofAmount, Amount.isNegative_plainForm, Direction.ofAmount]
  have hline : StatementLine.ofSigned r.id r.date r.amount.plainForm (canonicalBank code) source
      = r.toLine source := by
    rw [StatementLine.ofSigned, hbank, hdirection, toLine]
  rw [StatementLine.ofTexts, if_neg h.id_ne, Date.ofText_text, Amount.ofText_text, ← hline]
  rfl

theorem IsReadable.keeps (h : r.IsReadable code) (source : Path) :
    ((StatementReader.ofKind .general code).rowLayout source).Keeps header r.texts
      (r.toLine source) where
  length := by simp [texts, header]
  converted := by
    have hcode : Text.trim (canonicalBank code) = canonicalBank code := by
      rw [canonicalBank, Text.trim_upper, Text.trim_trim]
    have htrimmed : r.texts.map Text.trim = r.texts := by
      simp only [texts, List.map_cons, List.map_nil, h.id_trimmed, Date.trim_text, h.bank_canonical,
        hcode, Direction.trim_text, Amount.trim_text]
    have hverdict := congrArg Csv.Verdict.ofExcept (ofTexts_texts h source)
    rw [htrimmed]
    exact ⟨_, rfl, hverdict⟩

end OpenLine

/-- A statement file with rows of a bank left over is read as these rows. -/
theorem read_texts {code : String} {lines : List OpenLine} (h : ∀ r ∈ lines, r.IsReadable code)
    (file : Path) :
    (StatementReader.ofKind .general code).read true file
        (.whole (Text.encode (Csv.document OpenLine.header (lines.map OpenLine.texts))))
      = (.ok (lines.map (·.toLine file)), []) :=
  Csv.RowLayout.decode_document OpenLine.isHeader (fun r hr => (h r hr).keeps file) file

/-! ### Reports -/

/-- The rows left over are read back from the files of a report: entries from their file, and lines
from the file of their bank, where the bank has the common layout. -/
structure ReadsBack (entries : List OpenEntry) (lines : List OpenLine) (files : ReportFiles)
    (fs : FlatFiles) : Prop where
  entries : ∀ path, files.openEntries = some path → (∀ r ∈ entries, r.IsReadable) →
    openLedgerFile fs true path = (.ok (entries.map (·.toEntry path)), [])
  lines : ∀ registry code path, Registry.reader registry code = .ok (.ofKind .general code) →
    (canonicalBank code, path) ∈ files.openLines →
    (∀ r ∈ linesOf lines (canonicalBank code), r.IsReadable code) →
    openStatementFile fs registry true ⟨code, path⟩
      = (.ok ((linesOf lines (canonicalBank code)).map (·.toLine path)), [])

theorem openFile_of_find? {fs : FlatFiles} {path : Path} {content : Bytes}
    (h : fs.find? path = some content) :
    FileSystem.openFile fs path = .ok (.whole content) := by
  show (fs.read path).map Source.whole = _
  rw [FlatFiles.read, h]
  rfl

theorem readsBack_of_tells {plan : ReportPlan} {matched : List MatchedRow}
    {entries : List OpenEntry} {lines : List OpenLine} {fs fs' : FaultyFiles} {files : ReportFiles}
    {warnings : List Warning} (h : plan.Tells matched entries lines fs files warnings fs') :
    ReadsBack entries lines files fs'.files where
  entries := by
    intro path hpath hreadable
    rw [openLedgerFile, openFile_of_find? (h.openEntries_held path hpath)]
    exact readLedger_texts hreadable path
  lines := by
    intro registry code path hreader hpath hreadable
    rw [openStatementFile, openFile_of_find? (h.bank_held _ path hpath)]
    dsimp only
    rw [hreader]
    exact read_texts hreadable path

/-- Rows left over are read back as they are, from the file that is written of them and from the
files of a report. -/
theorem openRows_readBack :
    (∀ entries : List OpenEntry, (∀ r ∈ entries, r.IsReadable) → ∀ file,
      readLedger true file
          (.whole (Text.encode (Csv.document OpenEntry.header (entries.map OpenEntry.texts))))
        = (.ok (entries.map (·.toEntry file)), [])) ∧
    (∀ (code : String) (lines : List OpenLine), (∀ r ∈ lines, r.IsReadable code) → ∀ file,
      ∃ reader, ReaderMaker.ofKind .general code = .ok reader ∧
        reader.read true file
            (.whole (Text.encode (Csv.document OpenLine.header (lines.map OpenLine.texts))))
          = (.ok (lines.map (·.toLine file)), [])) ∧
    ∀ (schedule : Schedule) (plan : ReportPlan) (matched : List MatchedRow)
      (entries : List OpenEntry) (lines : List OpenLine) (fs fs' : FaultyFiles)
      (files : ReportFiles) (warnings : List Warning), PlainBanks lines →
      writeReport schedule plan matched entries lines fs = (.ok files, warnings, fs') →
      ReadsBack entries lines files fs'.files :=
  ⟨fun _ hreadable file => readLedger_texts hreadable file,
    fun _ _ hreadable file => ⟨_, rfl, read_texts hreadable file⟩,
    fun _ _ _ _ _ _ _ _ _ hplain hwrite =>
      readsBack_of_tells (ReportPlan.tells_of_writeReport hplain hwrite)⟩

/-- An amount with three decimals. -/
def fineMagnitude : Magnitude := ⟨12750, 3, by decide, by decide⟩

/-- Entries whose identifiers hold what a file gives a meaning to. -/
def awkwardEntries : List OpenEntry :=
  [⟨"a,b", .midnight mixedDay, .debit, .zero⟩,
    ⟨"say \"c\"\nand \"d\"", .midnight ⟨12025, 4, 1, by decide⟩, .credit,
      fineMagnitude.signed false⟩]

/-- Lines of one bank with such identifiers. -/
def awkwardLines : List OpenLine :=
  [⟨"\"", mixedDay, "BANK, LTD", .debit, fineMagnitude.signed true⟩,
    ⟨"é\rè", mixedDay, "BANK, LTD", .credit, .zero⟩]

theorem awkwardEntries_readable : ∀ r ∈ awkwardEntries, r.IsReadable := by
  intro r hr
  simp only [awkwardEntries, List.mem_cons, List.not_mem_nil, or_false] at hr
  rcases hr with rfl | rfl <;> exact ⟨by decide, by decide, rfl, rfl⟩

theorem awkwardLines_readable : ∀ r ∈ awkwardLines, r.IsReadable " bank, Ltd" := by
  intro r hr
  simp only [awkwardLines, List.mem_cons, List.not_mem_nil, or_false] at hr
  rcases hr with rfl | rfl <;> exact ⟨by decide, by decide, by decide, rfl⟩

theorem awkwardLines_plainBanks : PlainBanks awkwardLines := by
  unfold PlainBanks Text.IsPlain
  decide

theorem awkwardRows_readBack :
    (∀ r ∈ awkwardEntries, r.IsReadable) ∧ (∀ r ∈ awkwardLines, r.IsReadable " bank, Ltd") ∧
      PlainBanks awkwardLines ∧
      readLedger true ⟨"/again.csv"⟩ (.whole (Text.encode (Csv.document OpenEntry.header
          (awkwardEntries.map OpenEntry.texts))))
        = (.ok (awkwardEntries.map (·.toEntry ⟨"/again.csv"⟩)), []) ∧
      (∃ reader, ReaderMaker.ofKind .general " bank, Ltd" = .ok reader ∧
        reader.read true ⟨"/again.csv"⟩ (.whole (Text.encode (Csv.document OpenLine.header
            (awkwardLines.map OpenLine.texts))))
          = (.ok (awkwardLines.map (·.toLine ⟨"/again.csv"⟩)), [])) ∧
      ∃ files warnings, ∃ fs' : FaultyFiles,
        writeReport .reversed mixedPlan [] awkwardEntries awkwardLines
            (⟨.empty, .none⟩ : FaultyFiles) = (.ok files, warnings, fs') ∧
          ReadsBack awkwardEntries awkwardLines files fs'.files := by
  have hwrite : writeReport .reversed mixedPlan [] awkwardEntries awkwardLines
      (⟨.empty, .none⟩ : FaultyFiles) = _ :=
    ReportPlan.writeReport_of_cleared awkwardLines_plainBanks rfl .reversed
  rw [if_neg (by decide), if_neg (by decide)] at hwrite
  exact ⟨awkwardEntries_readable, awkwardLines_readable, awkwardLines_plainBanks,
    openRows_readBack.1 _ awkwardEntries_readable _,
    openRows_readBack.2.1 _ _ awkwardLines_readable _, _, _, _, hwrite,
    openRows_readBack.2.2 _ _ _ _ _ _ _ _ _ awkwardLines_plainBanks hwrite⟩

end LedgerMatch
