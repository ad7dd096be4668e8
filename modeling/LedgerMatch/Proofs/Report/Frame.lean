import LedgerMatch.Proofs.Report.Refusals

/-!
# What a report leaves alone

Writing a report changes nothing outside its three directories, whether it succeeds or fails. If it
removes earlier reports, the files in the directories are then those that it names. If it does not,
the files that it does not write stay as they are.
-/

namespace LedgerMatch

open FaultyFiles

/-! ### Files chosen by their paths -/

namespace FlatFiles

/-- The files under some of the paths, with their contents. -/
def chosen (keep : Path → Bool) (fs : FlatFiles) : List (Path × Bytes) :=
  fs.entries.filter fun e => keep e.1

theorem chosen_erase {keep : Path → Bool} {dir : Path}
    (h : ∀ p, keep p = true → p.isBelow dir = false) (fs : FlatFiles) :
    (fs.erase dir).chosen keep = fs.chosen keep := by
  rw [chosen, chosen, erase, keepOnly, List.filter_filter]
  refine List.filter_congr fun e _ => ?_
  cases hkeep : keep e.1 with
  | true =>
      rw [h e.1 hkeep]
      rfl
  | false => rfl

theorem chosen_insert {keep : Path → Bool} {p : Path}
    (h : ∀ q, p.same q = true → keep q = false) (content : Bytes) (fs : FlatFiles) :
    (fs.insert p content).chosen keep = fs.chosen keep :=
  filter_insertEntry keep h content fs.entries

theorem chosen_insertAll {keep : Path → Bool} {contents : List (Path × Bytes)}
    (h : ∀ f ∈ contents, ∀ q, f.1.same q = true → keep q = false) (fs : FlatFiles) :
    (insertAll contents fs).chosen keep = fs.chosen keep := by
  induction contents generalizing fs with
  | nil => rfl
  | cons f rest ih =>
      exact (ih (fun g hg => h g (List.mem_cons_of_mem f hg)) (fs.insert f.1 f.2)).trans
        (chosen_insert (h f List.mem_cons_self) f.2 fs)

/-- A file under a path that is new is one more file. -/
theorem insertEntry_perm {p : Path} (content : Bytes) {es : List (Path × Bytes)}
    (h : ∀ e ∈ es, p.same e.1 = false) : (insertEntry p content es).Perm ((p, content) :: es) := by
  induction es with
  | nil => exact .refl _
  | cons e rest ih =>
      obtain ⟨q, old⟩ := e
      rw [insertEntry, h (q, old) List.mem_cons_self, if_neg Bool.false_ne_true]
      split
      · exact .refl _
      · have hrest := ih fun e he => h e (List.mem_cons_of_mem _ he)
        exact (hrest.cons (q, old)).trans (.swap _ _ _)

/-- Files under different and new paths are that many more files. -/
theorem insertAll_perm {contents : List (Path × Bytes)} {fs : FlatFiles}
    (hpairs : contents.Pairwise fun f g => f.1.same g.1 = false)
    (hnew : ∀ f ∈ contents, ∀ e ∈ fs.entries, f.1.same e.1 = false) :
    (insertAll contents fs).entries.Perm (contents ++ fs.entries) := by
  induction contents generalizing fs with
  | nil => exact .refl _
  | cons f rest ih =>
      obtain ⟨hfirst, hrest⟩ := List.pairwise_cons.1 hpairs
      have hinsert := insertEntry_perm f.2 (hnew f List.mem_cons_self)
      have hlater : ∀ g ∈ rest, ∀ e ∈ (fs.insert f.1 f.2).entries, g.1.same e.1 = false := by
        intro g hg e he
        rcases List.mem_cons.1 (hinsert.mem_iff.1 he) with rfl | hold
        · rw [Path.same_comm]
          exact hfirst g hg
        · exact hnew g (List.mem_cons_of_mem f hg) e hold
      exact (ih hrest hlater).trans ((hinsert.append_left rest).trans List.perm_middle)

end FlatFiles

open FlatFiles

/-! ### Files of a report -/

namespace ReportPlan

/-- The paths in the directories of a report. -/
def owns (plan : ReportPlan) (p : Path) : Bool := plan.directories.any p.isBelow

/-- What a report stores before it ends: nothing from the first of its first two files on that is
refused, and otherwise all that is not. -/
def stored (plan : ReportPlan) (matched : List MatchedRow) (entries : List OpenEntry)
    (lines : List OpenLine) (fs : FaultyFiles) : List (Path × Bytes) :=
  let possible :=
    if matched ≠ [] ∧ fs.refuses plan.matchedPath then []
    else if entries ≠ [] ∧ fs.refuses plan.openEntriesPath then
      rowsContent plan.matchedPath MatchedRow.header (matched.map MatchedRow.texts)
    else plan.contents matched entries lines
  possible.filter fun f => !fs.refuses f.1

/-- The paths under which a report writes. -/
def writes (plan : ReportPlan) (matched : List MatchedRow) (entries : List OpenEntry)
    (lines : List OpenLine) (fs : FaultyFiles) (p : Path) : Bool :=
  (plan.stored matched entries lines fs).any fun f => f.1.same p

variable {plan : ReportPlan} {matched : List MatchedRow} {entries : List OpenEntry}
  {lines : List OpenLine} {fs : FaultyFiles}

theorem owns_congr {p q : Path} (h : p.same q = true) : plan.owns p = plan.owns q := by
  have hbelow : p.isBelow = q.isBelow := funext (Path.isBelow_congr h)
  rw [owns, owns, hbelow]

theorem owns_of_mem_contents (h : PlainBanks lines) {f : Path × Bytes}
    (hf : f ∈ plan.contents matched entries lines) : plan.owns f.1 = true := by
  obtain ⟨dir, hdir, hbelow⟩ := exists_directory h hf
  exact List.any_eq_true.2 ⟨dir, hdir, hbelow⟩

/-- Nothing outside the directories of a report changes. -/
theorem chosen_writeReport (h : PlainBanks lines) (schedule : Schedule) (fs : FaultyFiles) :
    (writeReport schedule plan matched entries lines fs).2.2.files.chosen (fun p => !plan.owns p)
      = fs.files.chosen fun p => !plan.owns p := by
  refine writeReport_keeps (I := fun fs' : FaultyFiles =>
    fs'.files.chosen (fun p => !plan.owns p) = fs.files.chosen fun p => !plan.owns p) schedule ?_ ?_ rfl
  · intro _ dir hdir fs' hkept
    show (fs'.remove dir).2.files.chosen _ = _
    rw [FaultyFiles.remove]
    split
    · exact hkept
    · refine (chosen_erase (fun p hp => ?_) fs'.files).trans hkept
      rw [← Bool.not_eq_true]
      intro hbelow
      have howns : plan.owns p = true := List.any_eq_true.2 ⟨dir, hdir, hbelow⟩
      simp [howns] at hp
  · intro f hf fs' hkept
    show (fs'.write f.1 f.2).2.files.chosen _ = _
    rw [FaultyFiles.write]
    split
    · exact hkept
    · refine (chosen_insert (fun q hsame => ?_) f.2 fs'.files).trans hkept
      rw [← owns_congr hsame, owns_of_mem_contents h hf]
      rfl

/-- A report that removes nothing stores its contents beside the files there are. -/
theorem files_writeReport_of_kept (h : PlainBanks lines) (hclear : plan.clear = false)
    (schedule : Schedule) (fs : FaultyFiles) :
    (writeReport schedule plan matched entries lines fs).2.2.files
      = insertAll (plan.stored matched entries lines fs) fs.files := by
  have hcleared : plan.cleared fs = (.ok (), fs) := by
    rw [cleared, hclear]
    rfl
  rw [writeReport_of_cleared h hcleared, stored]
  split
  · rfl
  · split <;> rfl

/-- A report that removes nothing leaves alone what it does not write. -/
theorem chosen_writeReport_of_kept (h : PlainBanks lines) (hclear : plan.clear = false)
    (schedule : Schedule) (fs : FaultyFiles) :
    (writeReport schedule plan matched entries lines fs).2.2.files.chosen
        (fun p => !plan.writes matched entries lines fs p)
      = fs.files.chosen fun p => !plan.writes matched entries lines fs p := by
  rw [files_writeReport_of_kept h hclear]
  refine chosen_insertAll (fun f hf q hsame => ?_) fs.files
  have hwrites : plan.writes matched entries lines fs q = true :=
    List.any_eq_true.2 ⟨f, hf, hsame⟩
  rw [hwrites]
  rfl

/-! ### Files that are left -/

theorem map_fst_filter_rowsContent (path : Path) (header : List String) (rows : List (List String))
    (fs : FaultyFiles) :
    ((rowsContent path header rows).filter fun f => !fs.refuses f.1).map Prod.fst
      = if rows = [] ∨ fs.refuses path = true then [] else [path] := by
  rw [rowsContent]
  by_cases hrows : rows = []
  · rw [if_pos hrows, if_pos (Or.inl hrows)]
    rfl
  · rw [if_neg hrows]
    cases hrefuses : fs.refuses path <;> simp [hrows, hrefuses]

/-- The contents that can be written lie under the paths that the report names. -/
theorem map_fst_filter_contents (hm : ¬ (matched ≠ [] ∧ fs.refuses plan.matchedPath = true))
    (he : ¬ (entries ≠ [] ∧ fs.refuses plan.openEntriesPath = true)) :
    ((plan.contents matched entries lines).filter fun f => !fs.refuses f.1).map Prod.fst
      = (plan.listed matched entries lines fs).paths := by
  have hfirst : ∀ {α : Type} {rows : List α} {texts : α → List String} {p : Path} {header},
      ¬ (rows ≠ [] ∧ fs.refuses p = true) →
        ((rowsContent p header (rows.map texts)).filter fun f => !fs.refuses f.1).map Prod.fst
          = (if rows = [] then none else some p).toList := by
    intro α rows texts p header hopen
    rw [map_fst_filter_rowsContent]
    simp only [List.map_eq_nil_iff]
    by_cases hrows : rows = []
    · rw [if_pos (Or.inl hrows), if_pos hrows]
      rfl
    · have hrefuses : ¬ fs.refuses p = true := fun hrefused => hopen ⟨hrows, hrefused⟩
      rw [if_neg (not_or.2 ⟨hrows, hrefuses⟩), if_neg hrows]
      rfl
  have hbanks : (((banksOf lines).flatMap (plan.bankContent lines)).filter
      fun f => !fs.refuses f.1).map Prod.fst = (plan.bankFiles lines fs).map Prod.snd := by
    rw [bankFiles, List.filter_flatMap, List.map_flatMap, List.map_map]
    have hbank : ∀ bank ∈ banksOf lines,
        ((plan.bankContent lines bank).filter fun f => !fs.refuses f.1).map Prod.fst
          = if fs.refuses (plan.bankPath bank) then [] else [plan.bankPath bank] := by
      intro bank hbank
      have hne : (linesOf lines bank).map OpenLine.texts ≠ [] :=
        fun hnil => linesOf_ne_nil hbank (List.map_eq_nil_iff.1 hnil)
      rw [bankContent, map_fst_filter_rowsContent]
      simp only [hne, false_or]
    rw [List.flatMap_congr hbank]
    generalize banksOf lines = banks
    induction banks with
    | nil => rfl
    | cons bank banks ih =>
        rw [List.flatMap_cons, ih]
        cases hrefuses : fs.refuses (plan.bankPath bank) <;> simp [hrefuses]
  rw [contents, List.filter_append, List.filter_append, List.map_append, List.map_append,
    hfirst hm, hfirst he, hbanks]
  rfl

/-- After earlier reports were removed, the files in the directories are those that are named. -/
theorem owned_perm_of_clear (h : PlainBanks lines) (hclear : plan.clear = true)
    {schedule : Schedule} {files : ReportFiles} {warnings : List Warning} {fs' : FaultyFiles}
    (hwrite : writeReport schedule plan matched entries lines fs = (.ok files, warnings, fs')) :
    (fs'.files.paths.filter plan.owns).Perm files.paths := by
  obtain ⟨fs₁, hcleared, hm, he, rfl, -, rfl⟩ := cleared_of_writeReport h hwrite
  have hfs₁ := cleared_eq_ok hcleared
  rw [if_pos hclear] at hfs₁
  have hnone : ∀ e ∈ fs₁.files.entries, plan.owns e.1 = false := by
    intro e hmem
    rw [hfs₁, entries_eraseAll] at hmem
    simpa [owns] using (List.mem_filter.1 hmem).2
  have hrefuses : fs₁.refuses = fs.refuses := funext (refuses_of_cleared hcleared)
  have hperm : (fs₁.store (plan.contents matched entries lines)).files.entries.Perm
      ((plan.contents matched entries lines).filter (fun f => !fs₁.refuses f.1)
        ++ fs₁.files.entries) := by
    refine insertAll_perm ((pairwise_contents h).sublist List.filter_sublist) fun f hf e hmem => ?_
    rw [← Bool.not_eq_true]
    intro hsame
    have howns := owns_of_mem_contents h (List.mem_filter.1 hf).1
    rw [owns_congr hsame, hnone e hmem] at howns
    cases howns
  have hpaths := (hperm.map Prod.fst).filter plan.owns
  rw [List.map_append, List.filter_append] at hpaths
  have hall : ((((plan.contents matched entries lines).filter fun f => !fs₁.refuses f.1).map
      Prod.fst).filter plan.owns)
        = (plan.listed matched entries lines fs).paths := by
    rw [hrefuses, map_fst_filter_contents hm he, ← map_fst_filter_contents hm he]
    refine List.filter_eq_self.2 fun p hp => ?_
    obtain ⟨f, hf, rfl⟩ := List.mem_map.1 hp
    exact owns_of_mem_contents h (List.mem_filter.1 hf).1
  have hrest : (fs₁.files.entries.map Prod.fst).filter plan.owns = [] := by
    refine List.filter_eq_nil_iff.2 fun p hp => ?_
    obtain ⟨e, hmem, rfl⟩ := List.mem_map.1 hp
    rw [hnone e hmem]
    exact Bool.false_ne_true
  rw [hall, hrest, List.append_nil] at hpaths
  exact hpaths

/-- A report keeps to its directories: what lies elsewhere stays, whether it is written or not; what
it names is all that lies there after earlier reports were removed; and if these are not removed, what
it does not write stays too. -/
structure KeepsTo (schedule : Schedule) (plan : ReportPlan) (matched : List MatchedRow)
    (entries : List OpenEntry) (lines : List OpenLine) (fs : FaultyFiles) : Prop where
  elsewhere :
    (writeReport schedule plan matched entries lines fs).2.2.files.chosen (fun p => !plan.owns p)
      = fs.files.chosen fun p => !plan.owns p
  listed : plan.clear = true → ∀ files warnings fs',
    writeReport schedule plan matched entries lines fs = (.ok files, warnings, fs') →
      (fs'.files.paths.filter plan.owns).Perm files.paths
  unwritten : plan.clear = false →
    (writeReport schedule plan matched entries lines fs).2.2.files.chosen
        (fun p => !plan.writes matched entries lines fs p)
      = fs.files.chosen fun p => !plan.writes matched entries lines fs p

end ReportPlan

theorem writeReport_keepsTo (schedule : Schedule) (plan : ReportPlan) (matched : List MatchedRow)
    (entries : List OpenEntry) {lines : List OpenLine} (h : PlainBanks lines) (fs : FaultyFiles) :
    ReportPlan.KeepsTo schedule plan matched entries lines fs where
  elsewhere := ReportPlan.chosen_writeReport h schedule fs
  listed := fun hclear _ _ _ hwrite => ReportPlan.owned_perm_of_clear h hclear hwrite
  unwritten := fun hclear => ReportPlan.chosen_writeReport_of_kept h hclear schedule fs

/-- The earlier report of a bank is gone, the statement elsewhere is not, and what the report names is
all that it leaves. -/
theorem mixedLines_keepsTo :
    PlainBanks mixedLines ∧
      ReportPlan.KeepsTo .reversed mixedPlan mixedMatched mixedEntries mixedLines refusedBank ∧
      mixedReport = (.ok mixedFiles, [.bankReportNotWritten "BCA" refusal], mixedReport.2.2) ∧
      mixedReport.2.2.files.chosen (fun p => !mixedPlan.owns p)
        = [(⟨"/statements/bca/a.csv"⟩, [1])] ∧
      (mixedReport.2.2.files.paths.filter mixedPlan.owns).Perm mixedFiles.paths := by
  have hkeeps := writeReport_keepsTo .reversed mixedPlan mixedMatched mixedEntries
    mixedLines_plainBanks refusedBank
  have helsewhere : refusedBank.files.chosen (fun p => !mixedPlan.owns p)
      = [(⟨"/statements/bca/a.csv"⟩, [1])] := by decide +kernel
  exact ⟨mixedLines_plainBanks, hkeeps, mixedReport_written, hkeeps.elsewhere.trans helsewhere,
    hkeeps.listed rfl _ _ _ mixedReport_written⟩

end LedgerMatch
