import LedgerMatch.Proofs.Amount.Sign
import LedgerMatch.Proofs.Intake.Banks

/-!
# Records that are read are canonical

Whatever a file holds, each line that is read from it has a name, the direction that the sign of its
amount says, and the bank that was asked for in its canonical form; each entry has a name and an
amount that is not negative. The amounts of the entries that are kept lie in the range that intake
tells of.
-/

namespace LedgerMatch

/-! ### Amounts in order -/

namespace Amount

theorem le_larger (a b : Amount) : a ≤ a.larger b ∧ b ≤ a.larger b := by
  unfold larger
  by_cases h : a < b
  · rw [if_pos h]
    exact ⟨Int.le_of_lt h, Int.le_refl _⟩
  · rw [if_neg h]
    exact ⟨Int.le_refl _, not_lt_iff.1 h⟩

end Amount

/-- No amount is above the largest one. -/
theorem le_largestAmount {entries : List LedgerEntry} {e : LedgerEntry} (he : e ∈ entries) :
    e.amount ≤ largestAmount entries := by
  -- the running maximum never falls, and is at least each amount that it has passed
  have hall : ∀ (rest : List LedgerEntry) (start : Amount),
      start ≤ rest.foldl (fun largest e => largest.larger e.amount) start ∧
        ∀ e ∈ rest, e.amount ≤ rest.foldl (fun largest e => largest.larger e.amount) start := by
    intro rest
    induction rest with
    | nil => exact fun start => ⟨Int.le_refl _, fun e he => by cases he⟩
    | cons first rest ih =>
        intro start
        obtain ⟨hstart, hrest⟩ := ih (start.larger first.amount)
        obtain ⟨hold, hnew⟩ := start.le_larger first.amount
        refine ⟨Int.le_trans hold hstart, fun e he => ?_⟩
        rcases List.mem_cons.1 he with rfl | hmem
        · exact Int.le_trans hnew hstart
        · exact hrest e hmem
  exact (hall entries Amount.zero).2 e he

/-! ### Registries of the three layouts -/

namespace Registry

/-- The registry after layouts are registered under codes, one after the other. -/
def ofKinds (registrations : List (String × StatementKind)) : Registry :=
  registrations.foldl (fun registry r => registry.register r.1 (.ofKind r.2)) empty

theorem ofKinds_makers (registrations : List (String × StatementKind)) :
    ∀ m ∈ (ofKinds registrations).makers, ReaderMaker.HasOneKind m.2 := by
  have hall : ∀ (rest : List (String × StatementKind)) (registry : Registry),
      (∀ m ∈ registry.makers, ReaderMaker.HasOneKind m.2) →
      ∀ m ∈ (rest.foldl (fun registry r => registry.register r.1 (.ofKind r.2)) registry).makers,
        ReaderMaker.HasOneKind m.2 := by
    intro rest
    induction rest with
    | nil => exact fun registry h => h
    | cons r rest ih =>
        intro registry h
        apply ih
        exact makers_register r.1 h ⟨r.2, rfl⟩
  apply hall
  intro m hm
  cases hm

/-- A registered maker is found under its own code. -/
theorem lookup_register_self {registry : Registry} {maker : ReaderMaker} {code key : String}
    (h : key = canonicalBank code) :
    (registry.register code maker).makers.lookup key = some maker := by
  rw [h, register, List.lookup_cons, beq_self_eq_true]

/-- The kind that was registered last reads the files of its bank. -/
theorem reader_register_ofKind {registry : Registry} {kind : StatementKind} {code spelling : String}
    (h : canonicalBank code = canonicalBank spelling) :
    (registry.register spelling (.ofKind kind)).reader code = .ok (.ofKind kind code) := by
  rw [reader, lookup_register_self h, Option.some_or]
  exact congrArg Except.ok (StatementReader.ofLayout_canonicalBank kind kind.layout id code)

/-- A reader of one of the kinds is made for the code that was asked for. -/
theorem exists_kind_of_reader {registry : Registry} {code : String} {reader : StatementReader}
    (hmakers : ∀ m ∈ registry.makers, ReaderMaker.HasOneKind m.2)
    (h : registry.reader code = .ok reader) : ∃ kind, reader = .ofKind kind code := by
  rw [Registry.reader] at h
  split at h
  · next maker hmaker =>
      obtain ⟨m, hm, rfl⟩ := exists_mem_of_lookup hmaker
      obtain ⟨kind, hkind⟩ := hmakers m hm
      rw [hkind] at h
      cases h
      exact ⟨kind, StatementReader.ofLayout_canonicalBank kind kind.layout id code⟩
  · cases h

end Registry

/-! ### Records that are read -/

/-- A line of a file, as it is read for the bank with a code. -/
structure StatementLine.IsCanonical (code : String) (source : Path) (l : StatementLine) : Prop where
  id_ne : l.id ≠ ""
  id_trimmed : Text.trim l.id = l.id
  debit_iff : l.direction = .debit ↔ l.amount < Amount.zero
  bank : l.bank = canonicalBank code
  source : l.source = source

/-- An entry of a file, as it is read. -/
structure LedgerEntry.IsCanonical (source : Path) (e : LedgerEntry) : Prop where
  id_ne : e.id ≠ ""
  id_trimmed : Text.trim e.id = e.id
  amount_nonneg : Amount.zero ≤ e.amount
  source : e.source = source

theorem Direction.ofAmount_eq_debit_iff (a : Amount) :
    Direction.ofAmount a = .debit ↔ a < Amount.zero := by
  rw [← Amount.isNegative_iff, ofAmount]
  cases a.isNegative <;> simp

theorem canonical_of_mem_read {kind : StatementKind} {code : String} {hasHeader : Bool}
    {file : Path} {source : Source} {lines : List StatementLine}
    (h : ((StatementReader.ofKind kind code).read hasHeader file source).1 = .ok lines)
    {l : StatementLine} (hl : l ∈ lines) : l.IsCanonical code file := by
  have htrimmed := StatementReader.trim_id_of_mem_read h hl
  obtain ⟨id, _, _, hline⟩ := StatementReader.exists_ofTexts_of_mem_read h hl
  obtain ⟨hid, date, amount, -, rfl⟩ := StatementLine.origin_of_ofTexts hline
  refine ⟨hid, htrimmed, Direction.ofAmount_eq_debit_iff amount, ?_, rfl⟩
  show Text.upper (canonicalBank code) = canonicalBank code
  rw [canonicalBank, Text.upper_upper]

theorem canonical_of_mem_readLedger {hasHeader : Bool} {file : Path} {source : Source}
    {entries : List LedgerEntry} (h : (readLedger hasHeader file source).1 = .ok entries)
    {e : LedgerEntry} (he : e ∈ entries) : e.IsCanonical file := by
  obtain ⟨id, _, _, _, hentry, htrimmed⟩ := exists_ofTexts_of_mem_readLedger h he
  obtain ⟨hid, time, direction, amount, rfl, -, -, hsign⟩ := LedgerEntry.origin_of_ofTexts hentry
  refine ⟨hid, htrimmed, Amount.not_lt_iff.1 fun hnegative => ?_, rfl⟩
  rw [← Amount.isNegative_iff, hsign] at hnegative
  cases hnegative

/-! ### Records that are kept -/

section

variable {φ : Type} [FileSystem φ] {fs : φ} {hasHeader : Bool}

theorem canonical_of_mem_ledgerRows {files : List Path} {e : LedgerEntry}
    (h : e ∈ ledgerRows fs hasHeader files) : ∃ file ∈ files, e.IsCanonical file := by
  obtain ⟨file, hfile, hmem⟩ := List.mem_flatMap.1 h
  obtain ⟨entries, hread, he⟩ := exists_of_mem_recordsOf hmem
  have hopen := eq_ok_of_noteFailure hread
  rw [openLedgerFile] at hopen
  split at hopen
  · cases hopen
  · exact ⟨file, hfile, canonical_of_mem_readLedger hopen he⟩

theorem canonical_of_mem_statementRows {registry : Registry} {files : List StatementFile}
    {l : StatementLine} (hmakers : ∀ m ∈ registry.makers, ReaderMaker.HasOneKind m.2)
    (h : l ∈ statementRows fs registry hasHeader files) :
    ∃ file ∈ files, l.IsCanonical file.bank file.path := by
  obtain ⟨file, hfile, hmem⟩ := List.mem_flatMap.1 h
  obtain ⟨lines, hread, hl⟩ := exists_of_mem_recordsOf hmem
  have hopen := eq_ok_of_noteFailure hread
  rw [openStatementFile] at hopen
  split at hopen
  · cases hopen
  · split at hopen
    · cases hopen
    · next reader hreader =>
        obtain ⟨kind, rfl⟩ := Registry.exists_kind_of_reader hmakers hreader
        exact ⟨file, hfile, canonical_of_mem_read hopen hl⟩

/-- What is kept was read from the files that were found, and the range holds its amounts. -/
structure Intake.IsCanonical (files : List Path) (statements : List StatementFile)
    (kept : Intake) : Prop where
  entries : ∀ e ∈ kept.entries, ∃ file ∈ files, e.IsCanonical file
  range : ∀ e ∈ kept.entries, kept.smallest ≤ e.amount ∧ e.amount ≤ kept.largest
  lines : ∀ l ∈ kept.lines, ∃ file ∈ statements, l.IsCanonical file.bank file.path

theorem Intake.canonical_of_read {registry : Registry} {schedule : Schedule}
    {ledgerRoot statementRoot : Path} {w : Window} {kept : Intake}
    (hmakers : ∀ m ∈ registry.makers, ReaderMaker.HasOneKind m.2)
    (h : (Intake.read fs registry schedule hasHeader ledgerRoot statementRoot w).1 = .ok kept) :
    ∃ files statements, ledgerFiles fs ledgerRoot = .ok files ∧
      statementFiles fs statementRoot w = .ok statements ∧ kept.IsCanonical files statements := by
  obtain ⟨files, statements, hfiles, hstatements, rfl⟩ := exists_files_of_read h
  refine ⟨files, statements, hfiles, hstatements, ?_, ?_, ?_⟩
  · intro e he
    exact canonical_of_mem_ledgerRows (List.mem_of_mem_filter he)
  · intro e he
    obtain ⟨file, -, hcanonical⟩ := canonical_of_mem_ledgerRows (List.mem_of_mem_filter he)
    exact ⟨hcanonical.amount_nonneg, le_largestAmount he⟩
  · intro l hl
    exact canonical_of_mem_statementRows hmakers (List.mem_of_mem_filter hl)

end

/-- Every record that is read is canonical, whatever the bytes of the file, with any registry of the
three layouts; and so is every record that intake keeps, with an amount in the range of the
intake. -/
theorem records_read_canonical (registrations : List (String × StatementKind)) (hasHeader : Bool) :
    (∀ code reader file source lines,
      (Registry.ofKinds registrations).reader code = .ok reader →
      (reader.read hasHeader file source).1 = .ok lines → ∀ l ∈ lines, l.IsCanonical code file) ∧
    (∀ file source entries, (readLedger hasHeader file source).1 = .ok entries →
      ∀ e ∈ entries, e.IsCanonical file) ∧
    ∀ (φ : Type) [FileSystem φ] (fs : φ) schedule ledgerRoot statementRoot w kept,
      (Intake.read fs (.ofKinds registrations) schedule hasHeader ledgerRoot statementRoot w).1
        = .ok kept →
      ∃ files statements, ledgerFiles fs ledgerRoot = .ok files ∧
        statementFiles fs statementRoot w = .ok statements ∧
        kept.IsCanonical files statements := by
  have hmakers := Registry.ofKinds_makers registrations
  refine ⟨?_, ?_, ?_⟩
  · intro code reader file source lines hreader hread l hl
    obtain ⟨kind, rfl⟩ := Registry.exists_kind_of_reader hmakers hreader
    exact canonical_of_mem_read hread hl
  · intro file source entries hread e he
    exact canonical_of_mem_readLedger hread he
  · intro φ _ fs schedule ledgerRoot statementRoot w kept hread
    exact Intake.canonical_of_read hmakers hread

/-- A statement file with blanks around a name, a row without a name, a zero with a sign, and a row
that is no text. -/
def untidyStatement : Bytes :=
  Text.encode "BCADate,BCAUniqueIdentifier,BCAAmount\n2025-04-11, X ,-0.4e-28\n2025-04-11, ,7\n"
    ++ [255, 44, 44, 10] ++ Text.encode "2025-04-11,Y, -12\n"

def untidyLedger : Bytes :=
  Text.encode "TrxID,TransactionTime,Type,Amount\nS,2025-04-11 00:00:00,debit,-1\n"
    ++ Text.encode "\tT,2025-04-11 00:00:00,credit,12\n"

def untidyPath : Path := ⟨"/in/bank/bca/a.csv"⟩

def untidyLedgerPath : Path := ⟨"/in/system/a.csv"⟩

def untidyFiles : FlatFiles :=
  .ofList [(untidyPath, untidyStatement), (untidyLedgerPath, untidyLedger)]

/-- The second registration takes the place of the first. -/
def untidyKinds : List (String × StatementKind) := [("BCA", .bni), (" bca ", .bca)]

theorem twelve_lt : 12 < mantissaLimit := by decide

def twelve (negative : Bool) : Amount := ⟨⟨12, 0, twelve_lt, Magnitude.zero.scale_le⟩, negative⟩

/-- The lines that are read of the statement file. -/
def untidyLines : List StatementLine :=
  [⟨"X", spacedDay, .credit, "BCA", ⟨⟨0, 28, Magnitude.zero.mantissa_lt, Nat.le_refl _⟩, true⟩, untidyPath⟩,
    ⟨"Y", spacedDay, .debit, "BCA", twelve true, untidyPath⟩]

/-- The entry that is read of the ledger file. -/
def untidyEntry : LedgerEntry :=
  ⟨"T", .midnight spacedDay, .credit, twelve false, untidyLedgerPath⟩

theorem untidyFiles_read_canonical :
    (Registry.ofKinds untidyKinds).reader "bca" = .ok (.ofKind .bca "bca") ∧
      ((StatementReader.ofKind .bca "bca").read true untidyPath (.whole untidyStatement)).1
        = .ok untidyLines ∧
      (∀ l ∈ untidyLines, l.IsCanonical "bca" untidyPath) ∧
      (readLedger true untidyLedgerPath (.whole untidyLedger)).1 = .ok [untidyEntry] ∧
      (∀ e ∈ [untidyEntry], e.IsCanonical untidyLedgerPath) ∧
      ∃ kept files statements,
        (Intake.read untidyFiles (.ofKinds untidyKinds) .reversed true ⟨"/in/system"⟩ ⟨"/in/bank"⟩
          (spacedWindow ["BCA"])).1 = .ok kept ∧
        kept.entries = [untidyEntry] ∧ kept.lines = untidyLines ∧
        ledgerFiles untidyFiles ⟨"/in/system"⟩ = .ok files ∧
        statementFiles untidyFiles ⟨"/in/bank"⟩ (spacedWindow ["BCA"]) = .ok statements ∧
        kept.IsCanonical files statements := by
  obtain ⟨hlines, hentries, hkept⟩ := records_read_canonical untidyKinds true
  have hreader : (Registry.ofKinds untidyKinds).reader "bca" = .ok (.ofKind .bca "bca") :=
    Registry.reader_register_ofKind (by decide +kernel)
  have hread : ((StatementReader.ofKind .bca "bca").read true untidyPath
      (.whole untidyStatement)).1 = .ok untidyLines := by
    decide +kernel
  have hledger : (readLedger true untidyLedgerPath (.whole untidyLedger)).1 = .ok [untidyEntry] := by
    decide +kernel
  have hledgerFiles : ledgerFiles untidyFiles ⟨"/in/system"⟩ = .ok [untidyLedgerPath] := by
    decide +kernel
  have hstatementFiles : statementFiles untidyFiles ⟨"/in/bank"⟩ (spacedWindow ["BCA"])
      = .ok [⟨"BCA", untidyPath⟩] := by
    decide +kernel
  have hintake := Intake.read_eq hledgerFiles hstatementFiles (.ofKinds untidyKinds) .reversed true
  exact ⟨hreader, hread, hlines _ _ _ _ _ hreader hread, hledger, hentries _ _ _ hledger, _, _, _,
    hintake, by decide +kernel, by decide +kernel, hledgerFiles, hstatementFiles, by
      obtain ⟨files, statements, hfiles, hstatements, hcanonical⟩ := hkept _ _ _ _ _ _ _ hintake
      rw [hledgerFiles] at hfiles
      rw [hstatementFiles] at hstatements
      cases hfiles
      cases hstatements
      exact hcanonical⟩

end LedgerMatch
