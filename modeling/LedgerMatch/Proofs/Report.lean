import LedgerMatch.Proofs.Files.Flat
import LedgerMatch.Proofs.Schedule
import LedgerMatch.Proofs.Text.Letter
import LedgerMatch.Report

/-!
# Reports do not depend on the schedule

The files of banks are written side by side. Banks whose codes hold no slash have files of their
own, so that it does not matter in which order they are written.
-/

namespace LedgerMatch

/-! ### Files of banks -/

namespace ReportPlan

variable (plan : ReportPlan)

theorem isPlain_repr (n : Nat) : Text.IsPlain n.repr := by
  intro hmem
  rw [Nat.toList_repr] at hmem
  have hdigit := Nat.isDigit_of_mem_toDigits (by decide) (by decide) hmem
  exact absurd hdigit (by decide)

theorem isPlain_append {s t : String} (hs : Text.IsPlain s) (ht : Text.IsPlain t) :
    Text.IsPlain (s ++ t) := by
  intro hmem
  rw [String.toList_append, List.mem_append] at hmem
  rcases hmem with h | h
  · exact hs h
  · exact ht h

theorem isPlain_timestamp (i : Int) : Text.IsPlain (toString i) := by
  rw [Int.toString_eq_repr, Int.repr_eq_if]
  split
  · exact isPlain_repr _
  · exact isPlain_append (by unfold Text.IsPlain; decide) (isPlain_repr _)

theorem isPlain_fileName {stem : String} (h : Text.IsPlain stem) :
    Text.IsPlain (plan.fileName stem).text :=
  isPlain_append (isPlain_append (isPlain_append h (by unfold Text.IsPlain; decide))
    (isPlain_timestamp plan.timestamp)) (by unfold Text.IsPlain; decide)

theorem long_fileName (stem : String) : 3 ≤ (plan.fileName stem).text.toList.length := by
  simp [fileName, String.toList_append]
  omega

theorem fileName_injective {stem stem' : String}
    (h : (plan.fileName stem).text = (plan.fileName stem').text) : stem = stem' := by
  have hchars := congrArg String.toList h
  simp only [fileName, String.toList_append, List.append_assoc] at hchars
  exact String.toList_inj.1 (List.append_cancel_right hchars)

/-! ### Paths of the files -/

/-- The names from the report root down to a file in one of the three directories. -/
theorem components_of_join {outer inner stem : String} (houter : Text.IsPlain outer)
    (hinner : Text.IsPlain inner) (hstem : Text.IsPlain stem) (hlong : 3 ≤ outer.toList.length)
    (hlong' : 3 ≤ inner.toList.length) :
    (((plan.root.join ⟨outer⟩).join ⟨inner⟩).join (plan.fileName stem)).components
      = plan.root.components ++ [outer, inner, (plan.fileName stem).text].map .name := by
  rw [Path.components_join _ (plan.isPlain_fileName hstem) (plan.long_fileName stem),
    Path.components_join _ hinner hlong', Path.components_join _ houter hlong, List.append_assoc,
    List.append_assoc]
  rfl

theorem components_matchedPath : plan.matchedPath.components
    = plan.root.components ++ ["system", "matched", (plan.fileName "matched").text].map .name :=
  plan.components_of_join (by unfold Text.IsPlain; decide) (by unfold Text.IsPlain; decide)
    (by unfold Text.IsPlain; decide) (by decide) (by decide)

theorem components_openEntriesPath : plan.openEntriesPath.components
    = plan.root.components
      ++ ["system", "not_matched", (plan.fileName "not_matched").text].map .name :=
  plan.components_of_join (by unfold Text.IsPlain; decide) (by unfold Text.IsPlain; decide)
    (by unfold Text.IsPlain; decide) (by decide) (by decide)

theorem components_bankPath {bank : String} (h : Text.IsPlain bank) :
    (plan.bankPath bank).components = plan.root.components
      ++ ["bank", "not_matched", (plan.fileName (Text.lower bank)).text].map .name :=
  plan.components_of_join (by unfold Text.IsPlain; decide) (by unfold Text.IsPlain; decide)
    (Text.isPlain_lower h) (by decide) (by decide)

theorem matchedPath_forks_openEntriesPath : plan.matchedPath.Forks plan.openEntriesPath :=
  Path.forks_of_names plan.components_matchedPath plan.components_openEntriesPath (Eq.refl 3)
    fun heq => absurd (List.cons.inj (List.cons.inj heq).2).1 (by decide)

theorem matchedPath_forks_bankPath {bank : String} (h : Text.IsPlain bank) :
    plan.matchedPath.Forks (plan.bankPath bank) :=
  Path.forks_of_names plan.components_matchedPath (plan.components_bankPath h) (Eq.refl 3)
    fun heq => absurd (List.cons.inj heq).1 (by decide)

theorem openEntriesPath_forks_bankPath {bank : String} (h : Text.IsPlain bank) :
    plan.openEntriesPath.Forks (plan.bankPath bank) :=
  Path.forks_of_names plan.components_openEntriesPath (plan.components_bankPath h) (Eq.refl 3)
    fun heq => absurd (List.cons.inj heq).1 (by decide)

/-- Two banks whose codes are written large and without slashes have two files. -/
theorem bankPath_forks_bankPath {bank bank' : String} (h : Text.IsPlain bank)
    (h' : Text.IsPlain bank') (hne : Text.lower bank ≠ Text.lower bank') :
    (plan.bankPath bank).Forks (plan.bankPath bank') := by
  refine Path.forks_of_names (plan.components_bankPath h) (plan.components_bankPath h')
    (Eq.refl 3) ?_
  intro heq
  have hbehind := (List.cons.inj (List.cons.inj heq).2).2
  exact hne (plan.fileName_injective (List.cons.inj hbehind).1)

end ReportPlan

/-! ### Banks of lines -/

theorem nodup_banksOf (lines : List OpenLine) : (banksOf lines).Nodup :=
  (List.mergeSort_perm _ _).nodup_iff.2 (nodup_eraseDups _)

theorem mem_banksOf {lines : List OpenLine} {bank : String} :
    bank ∈ banksOf lines ↔ ∃ l ∈ lines, Text.upper l.bank = bank := by
  rw [banksOf, List.mem_mergeSort, List.mem_eraseDups, List.mem_map]

/-- Lines of banks whose codes hold no slash. -/
def PlainBanks (lines : List OpenLine) : Prop := ∀ l ∈ lines, Text.IsPlain l.bank

/-- Two banks of lines have two files. -/
theorem bankPath_forks_of_mem (plan : ReportPlan) {lines : List OpenLine} (h : PlainBanks lines)
    {bank bank' : String} (hmem : bank ∈ banksOf lines) (hmem' : bank' ∈ banksOf lines)
    (hne : bank ≠ bank') : (plan.bankPath bank).Forks (plan.bankPath bank') := by
  obtain ⟨l, hl, rfl⟩ := mem_banksOf.1 hmem
  obtain ⟨l', hl', rfl⟩ := mem_banksOf.1 hmem'
  exact plan.bankPath_forks_bankPath (Text.isPlain_upper (h l hl)) (Text.isPlain_upper (h l' hl'))
    fun heq => hne (Text.upper_eq_of_lower_eq heq)

/-- The banks of lines have different files. -/
theorem pairwise_bankPath (plan : ReportPlan) {lines : List OpenLine} (h : PlainBanks lines) :
    (banksOf lines).Pairwise fun bank bank' =>
      (plan.bankPath bank).Forks (plan.bankPath bank') :=
  (nodup_banksOf lines).imp_of_mem (bankPath_forks_of_mem plan h)

/-! ### Writing them -/

/-- The file that was written, if it could be. -/
def writtenFile (path : Path) : Except FileFault Unit → Except Failure (Option Path)
  | .ok () => .ok (some path)
  | .error fault => .error (.file fault)

theorem writeRows_of_ne_nil {rows : List (List String)} (h : rows ≠ []) (path : Path)
    (header : List String) (fs : FaultyFiles) :
    writeRows path header rows fs
      = (writtenFile path (fs.write path (Text.encode (Csv.document header rows))).1,
        (fs.write path (Text.encode (Csv.document header rows))).2) := by
  have hwrite : FileSystem.write fs path (Text.encode (Csv.document header rows))
      = fs.write path (Text.encode (Csv.document header rows)) := rfl
  rw [writeRows, if_neg h, hwrite]
  generalize fs.write path (Text.encode (Csv.document header rows)) = written
  obtain ⟨result, fs'⟩ := written
  cases result <;> rfl

theorem writeRows_nil (path : Path) (header : List String) (fs : FaultyFiles) :
    writeRows path header [] fs = (.ok none, fs) :=
  if_pos rfl

/-- Rows that are written to two different files do not get in each other's way. -/
theorem writeRows_apart {p q : Path} (h : p.same q = false) (header header' : List String)
    (rows rows' : List (List String)) :
    Schedule.Apart (Eq : FaultyFiles → FaultyFiles → Prop) (writeRows p header rows)
      (writeRows q header' rows') := by
  by_cases hrows : rows = []
  · subst hrows
    constructor <;> intro fs <;> simp only [writeRows_nil]
  · by_cases hrows' : rows' = []
    · subst hrows'
      constructor <;> intro fs <;> simp only [writeRows_nil]
    · constructor
      · intro fs
        rw [writeRows_of_ne_nil hrows', writeRows_of_ne_nil hrows, writeRows_of_ne_nil hrows,
          FaultyFiles.write_result_write]
      · intro fs
        rw [writeRows_of_ne_nil hrows, writeRows_of_ne_nil hrows', writeRows_of_ne_nil hrows',
          FaultyFiles.write_result_write]
      · intro fs
        rw [writeRows_of_ne_nil hrows, writeRows_of_ne_nil hrows', writeRows_of_ne_nil hrows',
          writeRows_of_ne_nil hrows]
        exact FaultyFiles.write_comm h fs _ _

/-- The tasks of writing a file for each bank. -/
theorem independent_writeRows (plan : ReportPlan) {lines : List OpenLine} (h : PlainBanks lines) :
    Schedule.Independent (Eq : FaultyFiles → FaultyFiles → Prop)
      ((banksOf lines).map fun bank => writeRows (plan.bankPath bank) OpenLine.header
        ((linesOf lines bank).map OpenLine.texts)) where
  equivalence := ⟨fun _ => rfl, Eq.symm, Eq.trans⟩
  respects := by
    rintro task - s u rfl
    exact ⟨rfl, rfl⟩
  apart := by
    rw [List.pairwise_map]
    exact (pairwise_bankPath plan h).imp fun hforks => writeRows_apart hforks.not_same _ _ _ _

/-- The files of banks do not depend on the order in which they are finished. -/
theorem writeBanks_schedule (schedule schedule' : Schedule) (plan : ReportPlan)
    {lines : List OpenLine} (h : PlainBanks lines) (fs : FaultyFiles) :
    writeBanks schedule plan lines fs = writeBanks schedule' plan lines fs := by
  have hrun := (independent_writeRows plan h).run_agree schedule schedule' (rfl : fs = fs)
  unfold writeBanks
  simp only [hrun.1, hrun.2]

theorem writeReport_schedule (schedule schedule' : Schedule) (plan : ReportPlan)
    (matched : List MatchedRow) (entries : List OpenEntry) {lines : List OpenLine}
    (h : PlainBanks lines) (fs : FaultyFiles) :
    writeReport schedule plan matched entries lines fs
      = writeReport schedule' plan matched entries lines fs := by
  unfold writeReport
  simp only [writeBanks_schedule schedule schedule' plan h]

end LedgerMatch
