import LedgerMatch.Proofs.Intake.Failures
import LedgerMatch.Proofs.Window

/-!
# Banks from their directories to their lines

The bank of a statement file is the name of its directory, and the name as it stands is looked up in
the list of banks. The lines of the file have the name in canonical form, without the blanks around
it, and that form is looked up again. The two answers can differ for a name with blanks around it
alone: then the file is read, and its lines are lost.
-/

namespace LedgerMatch

/-! ### Names and their canonical forms -/

namespace Window

variable {w : Window} {code other : String}

/-- Names that are written large alike are taken in alike. -/
theorem acceptsBank_congr (h : Text.upper code = Text.upper other) :
    w.acceptsBank code = w.acceptsBank other := by
  simp only [acceptsBank, Text.sameLetters_eq, h]

/-- A name that is taken in is listed, in some letter case. -/
theorem acceptsBank_iff :
    w.acceptsBank code = true ↔ ∃ b ∈ w.banks, Text.upper b = Text.upper code := by
  simp only [acceptsBank, Text.sameLetters_eq, List.any_eq_true, beq_iff_eq]

/-- Only the blanks around a name can make a difference between the name and its canonical form. -/
theorem acceptsBank_canonicalBank :
    w.acceptsBank (canonicalBank code) = w.acceptsBank (Text.trim code) :=
  acceptsBank_congr (Text.upper_upper _)

/-- A name that is taken in is so without the blanks around it too, if the names of the list are. -/
theorem acceptsBank_trim (h : ∀ b ∈ w.banks, w.acceptsBank (Text.trim b) = true)
    (hcode : w.acceptsBank code = true) : w.acceptsBank (Text.trim code) = true := by
  obtain ⟨b, hb, hsame⟩ := acceptsBank_iff.1 hcode
  have htrimmed : Text.upper (Text.trim code) = Text.upper (Text.trim b) := by
    rw [← Text.trim_upper, ← Text.trim_upper, hsame]
  rw [acceptsBank_congr htrimmed]
  exact h b hb

/-- The canonical form of every name that is taken in is taken in as well if and only if the list
takes in its own names without the blanks around them. -/
theorem forall_acceptsBank_canonicalBank_iff :
    (∀ code, w.acceptsBank code = true → w.acceptsBank (canonicalBank code) = true) ↔
      ∀ b ∈ w.banks, w.acceptsBank (Text.trim b) = true := by
  constructor
  · intro h b hb
    rw [← acceptsBank_canonicalBank]
    exact h b (acceptsBank_iff.2 ⟨b, hb, rfl⟩)
  · intro h code hcode
    rw [acceptsBank_canonicalBank]
    exact acceptsBank_trim h hcode

end Window

/-! ### The bank of a line -/

/-- Every bank has a reader, under its canonical code. -/
theorem Registry.exists_standard_reader (code : String) :
    ∃ kind, standard.reader code = .ok (.ofKind kind code) := by
  have hdefault : (standard.makers.lookup "DEFAULT").isSome = true := by decide +kernel
  have hsome : ((standard.makers.lookup (canonicalBank code)).or
      (standard.makers.lookup "DEFAULT")).isSome = true := by
    rw [Option.isSome_or, hdefault, Bool.or_true]
  obtain ⟨maker, hmaker⟩ := Option.isSome_iff_exists.1 hsome
  obtain ⟨m, hm, hmade⟩ := exists_mem_of_lookup hmaker
  obtain ⟨kind, hkind⟩ := standard_makers m hm
  refine ⟨kind, ?_⟩
  rw [reader, hmaker, ← hmade, hkind]
  exact congrArg Except.ok (StatementReader.ofLayout_canonicalBank ..)

/-- The file found under a path has the name of its directory, written large. -/
theorem StatementFile.exists_bankCode {w : Window} {p : Path} {file : StatementFile}
    (h : ofPath? w p = some file) :
    ∃ code, bankCode? file.path = some code ∧ w.acceptsBank code = true ∧
      file.bank = Text.upper code := by
  obtain ⟨code, hpath, haccepts, rfl⟩ := ofPath?_eq_some_iff.1 h
  exact ⟨code, bankCode?_eq_some_iff.2 hpath, haccepts, rfl⟩

section

variable {φ : Type} [FileSystem φ]

theorem exists_bankCode_of_mem_statementFiles {fs : φ} {root : Path} {w : Window}
    {files : List StatementFile} (h : statementFiles fs root w = .ok files) {file : StatementFile}
    (hfile : file ∈ files) :
    ∃ code, bankCode? file.path = some code ∧ w.acceptsBank code = true ∧
      file.bank = Text.upper code := by
  rw [statementFiles] at h
  split at h
  · cases h
    obtain ⟨p, -, hp⟩ := List.mem_filterMap.1 hfile
    exact StatementFile.exists_bankCode hp
  · cases h

/-- The lines of a file have the canonical form of its bank. -/
theorem bank_of_mem_readStatementFile {fs : φ} {hasHeader : Bool} {file : StatementFile}
    {l : StatementLine} (h : l ∈ recordsOf (readStatementFile fs .standard hasHeader file).1) :
    l.bank = canonicalBank file.bank := by
  obtain ⟨lines, hread, hl⟩ := exists_of_mem_recordsOf h
  obtain ⟨reader, hreader, hbank⟩ := exists_reader_of_readStatementFile hread
  obtain ⟨kind, hstandard⟩ := Registry.exists_standard_reader file.bank
  rw [hstandard] at hreader
  cases hreader
  rw [hbank l hl]
  exact Text.upper_upper _

/-! ### Lines that are kept -/

/-- A line of a file that was found is kept if it lies inside the window. -/
theorem Intake.mem_lines_inWindow {fs : φ} {registry : Registry} {hasHeader : Bool} {w : Window}
    {files : List StatementFile} {file : StatementFile} (hfile : file ∈ files) {l : StatementLine}
    (hl : l ∈ recordsOf (readStatementFile fs registry hasHeader file).1)
    (entries : List LedgerEntry) :
    l ∈ (inWindow w entries (statementRows fs registry hasHeader files)).lines ↔
      w.keepsLine l = true := by
  have hrow : l ∈ statementRows fs registry hasHeader files := List.mem_flatMap.2 ⟨file, hfile, hl⟩
  exact ⟨fun h => (List.mem_filter.1 h).2, fun h => List.mem_filter.2 ⟨hrow, h⟩⟩

end

/-- A line between the first and the last day of the window, from a file that was found, is kept if
and only if the name of its directory is taken in without the blanks around it too, and the day is
not the last one of the calendar. No line is lost to the blanks if and only if the list of banks
takes in all its own names without theirs. -/
theorem Intake.keeps_line_iff_trimmed_bank_accepted (fs : FlatFiles) (schedule : Schedule)
    (hasHeader : Bool) (ledgerRoot statementRoot : Path) (w : Window) :
    ∃ files kept,
      statementFiles fs statementRoot w = .ok files ∧
      (Intake.read fs .standard schedule hasHeader ledgerRoot statementRoot w).1 = .ok kept ∧
      (∀ file ∈ files, ∃ code,
        bankCode? file.path = some code ∧ w.acceptsBank code = true ∧
        ∀ l ∈ recordsOf (readStatementFile fs .standard hasHeader file).1,
          l.bank = canonicalBank code ∧
          (w.first ≤ l.date → l.date ≤ w.last →
            (l ∈ kept.lines ↔ w.acceptsBank (Text.trim code) = true ∧ l.date.next? ≠ none))) ∧
      ((∀ code, w.acceptsBank code = true → w.acceptsBank (canonicalBank code) = true) ↔
        ∀ b ∈ w.banks, w.acceptsBank (Text.trim b) = true) := by
  have hledger : ledgerFiles fs ledgerRoot = .ok ((fs.below ledgerRoot).filter Path.isCsv) := rfl
  have hfiles : statementFiles fs statementRoot w
      = .ok ((fs.below statementRoot).filterMap (StatementFile.ofPath? w)) := rfl
  refine ⟨_, _, hfiles, read_eq hledger hfiles .standard schedule hasHeader, ?_,
    Window.forall_acceptsBank_canonicalBank_iff⟩
  intro file hfile
  obtain ⟨code, hcode, haccepts, hbank⟩ := exists_bankCode_of_mem_statementFiles hfiles hfile
  refine ⟨code, hcode, haccepts, fun l hl => ?_⟩
  have hline : l.bank = canonicalBank code := by
    rw [bank_of_mem_readStatementFile hl, hbank, Text.canonicalBank_upper]
  refine ⟨hline, fun hfirst hlast => ?_⟩
  rw [mem_lines_inWindow hfile hl, Window.keepsLine, Bool.and_eq_true, hline,
    Window.acceptsBank_canonicalBank, Window.containsDate_iff]
  tauto

def spacedDay : Date := ⟨2025, 4, 11, by decide⟩

/-- The path of a statement file in a directory whose name begins with a blank. -/
def spacedPath : Path := ⟨"/in/bank/ bca/a.csv"⟩

def spacedFiles : FlatFiles :=
  .ofList [(spacedPath, Text.encode "BCAUniqueIdentifier,BCADate,BCAAmount\nX,2025-04-11,12\n")]

/-- The line of the file. -/
def spacedLine : StatementLine where
  id := "X"
  date := spacedDay
  direction := .credit
  bank := "BCA"
  amount := ⟨⟨12, 0, by decide, Magnitude.zero.scale_le⟩, false⟩
  source := spacedPath

def spacedWindow (banks : List String) : Window := ⟨spacedDay, spacedDay, banks⟩

/-- The line is kept if the list has the name of the directory and the bank without the blank. -/
theorem spacedFiles_line_kept :
    ∃ kept, (Intake.read spacedFiles .standard .sequential true ⟨"/in/system"⟩ ⟨"/in/bank"⟩
        (spacedWindow [" bca", "Bca"])).1 = .ok kept ∧ spacedLine ∈ kept.lines := by
  obtain ⟨files, kept, hfiles, hread, hkept, -⟩ :=
    Intake.keeps_line_iff_trimmed_bank_accepted spacedFiles .sequential true ⟨"/in/system"⟩
      ⟨"/in/bank"⟩ (spacedWindow [" bca", "Bca"])
  cases hfiles
  obtain ⟨code, hcode, -, hlines⟩ := hkept ⟨" BCA", spacedPath⟩ (by decide +kernel)
  obtain rfl : code = " bca" := by
    have hname : bankCode? spacedPath = some " bca" := by decide +kernel
    exact Option.some.inj (hcode.symm.trans hname)
  obtain ⟨-, hline⟩ := hlines spacedLine (by decide +kernel)
  exact ⟨kept, hread, (hline (by decide) (by decide)).2 ⟨by decide +kernel, by decide +kernel⟩⟩

/-- A directory that is taken in can have lines that are lost: its name is listed with a blank, and
the bank of its lines has none. -/
theorem spacedFiles_line_lost :
    (¬ ∀ (fs : FlatFiles) (schedule : Schedule) (hasHeader : Bool)
        (ledgerRoot statementRoot : Path) (w : Window) (files : List StatementFile)
        (kept : Intake), statementFiles fs statementRoot w = .ok files →
      (Intake.read fs .standard schedule hasHeader ledgerRoot statementRoot w).1 = .ok kept →
      ∀ file ∈ files, ∀ l ∈ recordsOf (readStatementFile fs .standard hasHeader file).1,
        w.containsDate l.date = true → l ∈ kept.lines) ∧
      ¬ ∀ (w : Window) (code : String), w.acceptsBank code = true →
        w.acceptsBank (canonicalBank code) = true := by
  constructor
  · intro h
    have hledger : ledgerFiles spacedFiles ⟨"/in/system"⟩ = .ok [] := by decide +kernel
    have hfiles : statementFiles spacedFiles ⟨"/in/bank"⟩ (spacedWindow [" bca"])
        = .ok [⟨" BCA", spacedPath⟩] := by decide +kernel
    have hlines : statementRows spacedFiles .standard true [⟨" BCA", spacedPath⟩] = [spacedLine] := by
      decide +kernel
    have hread := Intake.read_eq hledger hfiles .standard .sequential true
    rw [hlines] at hread
    have hmem := h spacedFiles .sequential true ⟨"/in/system"⟩ ⟨"/in/bank"⟩
      (spacedWindow [" bca"]) _ _ hfiles hread ⟨" BCA", spacedPath⟩ List.mem_cons_self spacedLine
      (by decide +kernel) (by decide)
    exact absurd hmem (by decide +kernel)
  · intro h
    exact absurd (h (spacedWindow [" bca"]) " bca" (by decide +kernel)) (by decide +kernel)

end LedgerMatch
