import LedgerMatch.Proofs.Intake.Failures

/-!
# Intake under every interleaving

The tasks that read files of both kinds run side by side. A task that could read its file leaves the
records, beside the number of the file, behind what tasks of its kind have left before, and in the
end the records are put into the order of the numbers. In whatever order the tasks finish, the ones
among the others, this gives the records of all files that could be read, file after file, and those
are the records that intake keeps under any schedule.
-/

namespace LedgerMatch

/-! ### Tasks of one kind -/

section

variable {ι α : Type}

/-- What the task for a file leaves: the records beside the number of the file, if it could be
read. -/
def leftBy? (read : ι → Except Failure (List α) × List Warning) (files : List ι) (i : Nat) :
    Option (Nat × List α) :=
  match files[i]?.map fun file => (read file).1 with
  | some (.ok records) => some (i, records)
  | _ => none

/-- A task that finishes leaves its records behind those that are there. -/
def leave (read : ι → Except Failure (List α) × List Warning) (files : List ι)
    (left : List (Nat × List α)) (i : Nat) : List (Nat × List α) :=
  left ++ (leftBy? read files i).toList

/-- The records that were left, in the order of the numbers beside them. -/
def inOrder (left : List (Nat × List α)) : List α :=
  (left.mergeSort fun a b => a.1 ≤ b.1).flatMap (·.2)

variable (read : ι → Except Failure (List α) × List Warning) (files : List ι)

theorem foldl_leave (order : List Nat) (left : List (Nat × List α)) :
    order.foldl (leave read files) left = left ++ order.filterMap (leftBy? read files) := by
  induction order generalizing left with
  | nil => simp
  | cons i rest ih =>
      rw [List.foldl_cons, ih, leave, List.append_assoc]
      cases h : leftBy? read files i <;> simp [h]

theorem fst_of_leftBy? {i : Nat} {a : Nat × List α} (h : leftBy? read files i = some a) :
    a.1 = i := by
  rw [leftBy?] at h
  split at h
  · cases h
    rfl
  · cases h

/-- What was left is the same for all orders once it is sorted: it is what the files leave in turn. -/
theorem mergeSort_left {order : List Nat} (h : order.Perm (List.range files.length)) :
    ((order.filterMap (leftBy? read files)).mergeSort fun a b => a.1 ≤ b.1)
      = (List.range files.length).filterMap (leftBy? read files) := by
  have hsorted : ((List.range files.length).filterMap (leftBy? read files)).Pairwise
      fun a b => decide (a.1 ≤ b.1) = true := by
    rw [List.pairwise_filterMap]
    refine List.pairwise_lt_range.imp ?_
    intro i j hij a ha b hb
    rw [fst_of_leftBy? read files ha, fst_of_leftBy? read files hb, decide_eq_true_eq]
    exact Nat.le_of_lt hij
  rw [← List.mergeSort_of_pairwise hsorted]
  apply mergeSort_numbers_eq_of_perm
  · intro a ha b hb hab
    obtain ⟨i, -, hi⟩ := List.mem_filterMap.1 ha
    obtain ⟨j, -, hj⟩ := List.mem_filterMap.1 hb
    have hij : i = j := by
      rw [← fst_of_leftBy? read files hi, ← fst_of_leftBy? read files hj, hab]
    subst hij
    exact Option.some.inj (hi.symm.trans hj)
  · exact h.filterMap _

/-- What the files leave in turn are the records of those that could be read. -/
theorem flatMap_leftBy? :
    ((List.range files.length).filterMap (leftBy? read files)).flatMap (·.2)
      = files.flatMap fun file => recordsOf (read file).1 := by
  have hturn : files.flatMap (fun file => recordsOf (read file).1)
      = ((List.range files.length).filterMap (files[·]?)).flatMap
          fun file => recordsOf (read file).1 := by
    rw [filterMap_getElem?_range]
  rw [hturn, List.filterMap_eq_flatMap_toList, List.filterMap_eq_flatMap_toList, List.flatMap_assoc,
    List.flatMap_assoc]
  refine List.flatMap_congr fun i _ => ?_
  rw [leftBy?]
  cases files[i]? with
  | none => rfl
  | some file =>
      cases h : (read file).1 with
      | error failure => simp [h, recordsOf]
      | ok records => simp [h, recordsOf]

/-- In whatever order the tasks finish, the records are those of the files that could be read, in the
order of the files. -/
theorem inOrder_foldl_leave {order : List Nat} (h : order.Perm (List.range files.length)) :
    inOrder (order.foldl (leave read files) []) = files.flatMap fun file => recordsOf (read file).1 := by
  rw [foldl_leave, List.nil_append, inOrder, mergeSort_left read files h, flatMap_leftBy?]

end

/-! ### Tasks of both kinds -/

section

variable {ι κ α β : Type}

/-- What the tasks of both kinds have left so far. -/
structure LeftBehind (α β : Type) where
  entries : List (Nat × List α)
  lines : List (Nat × List β)

/-- A task of one of the kinds finishes. -/
def LeftBehind.finish (readEntries : ι → Except Failure (List α) × List Warning)
    (readLines : κ → Except Failure (List β) × List Warning) (ledger : List ι) (statements : List κ)
    (left : LeftBehind α β) : Nat ⊕ Nat → LeftBehind α β
  | .inl i => { left with entries := leave readEntries ledger left.entries i }
  | .inr i => { left with lines := leave readLines statements left.lines i }

/-- An order in which tasks of two kinds finish, each of them once. -/
def IsInterleaving (ledger statements : Nat) (order : List (Nat ⊕ Nat)) : Prop :=
  order.Perm ((List.range ledger).map .inl ++ (List.range statements).map .inr)

instance (ledger statements : Nat) (order : List (Nat ⊕ Nat)) :
    Decidable (IsInterleaving ledger statements order) :=
  inferInstanceAs (Decidable (order.Perm _))

theorem IsInterleaving.lefts {ledger statements : Nat} {order : List (Nat ⊕ Nat)}
    (h : IsInterleaving ledger statements order) :
    (order.filterMap Sum.getLeft?).Perm (List.range ledger) := by
  simpa [List.filterMap_map, Function.comp_def] using h.filterMap Sum.getLeft?

theorem IsInterleaving.rights {ledger statements : Nat} {order : List (Nat ⊕ Nat)}
    (h : IsInterleaving ledger statements order) :
    (order.filterMap Sum.getRight?).Perm (List.range statements) := by
  simpa [List.filterMap_map, Function.comp_def] using h.filterMap Sum.getRight?

variable (readEntries : ι → Except Failure (List α) × List Warning)
  (readLines : κ → Except Failure (List β) × List Warning) (ledger : List ι) (statements : List κ)

/-- The tasks of each kind leave what they leave without those of the other kind. -/
theorem foldl_finish (order : List (Nat ⊕ Nat)) (left : LeftBehind α β) :
    order.foldl (LeftBehind.finish readEntries readLines ledger statements) left
      = ⟨(order.filterMap Sum.getLeft?).foldl (leave readEntries ledger) left.entries,
          (order.filterMap Sum.getRight?).foldl (leave readLines statements) left.lines⟩ := by
  induction order generalizing left with
  | nil => rfl
  | cons task rest ih =>
      rw [List.foldl_cons, ih]
      cases task with
      | inl i => rfl
      | inr i => rfl

end

/-! ### The whole intake -/

section

variable {φ : Type} [FileSystem φ]

/-- What the tasks of an intake leave when they finish in an order. -/
def intakeLeft (fs : φ) (registry : Registry) (hasHeader : Bool) (ledger : List Path)
    (statements : List StatementFile) (order : List (Nat ⊕ Nat)) :
    LeftBehind LedgerEntry StatementLine :=
  order.foldl (LeftBehind.finish (readLedgerFile fs hasHeader)
    (readStatementFile fs registry hasHeader) ledger statements) ⟨[], []⟩

theorem inOrder_intakeLeft {ledger : List Path} {statements : List StatementFile}
    {order : List (Nat ⊕ Nat)} (h : IsInterleaving ledger.length statements.length order) (fs : φ)
    (registry : Registry) (hasHeader : Bool) :
    inOrder (intakeLeft fs registry hasHeader ledger statements order).entries
        = ledgerRows fs hasHeader ledger ∧
      inOrder (intakeLeft fs registry hasHeader ledger statements order).lines
        = statementRows fs registry hasHeader statements := by
  rw [intakeLeft, foldl_finish]
  exact ⟨inOrder_foldl_leave _ _ h.lefts, inOrder_foldl_leave _ _ h.rights⟩

/-- In whatever order the tasks for files finish, their records are those of exactly the files that
could be read, file after file, which are also the records read under any schedule. So whatever
interleaving the tasks of both kinds finish in, intake under any schedule keeps just what they leave:
the records inside the window of the ledger files and of the statement files, in their orders. -/
theorem Intake.read_same_under_every_interleaving (fs : φ) (registry : Registry) (hasHeader : Bool)
    (ledgerRoot statementRoot : Path) (w : Window) :
    (∀ (ι α : Type) (read : ι → Except Failure (List α) × List Warning) (files : List ι)
        (order : List Nat), order.Perm (List.range files.length) →
      inOrder (order.foldl (leave read files) [])
        = files.flatMap (fun file => recordsOf (read file).1) ∧
      ∀ (schedule : Schedule) (log : List Warning),
        (readAll schedule read files log).1 = files.flatMap fun file => recordsOf (read file).1) ∧
    (∀ (ledger : List Path) (statements : List StatementFile),
      ledgerFiles fs ledgerRoot = .ok ledger → statementFiles fs statementRoot w = .ok statements →
      ∀ (order : List (Nat ⊕ Nat)), IsInterleaving ledger.length statements.length order →
      ∀ (schedule : Schedule), ∃ kept,
        (Intake.read fs registry schedule hasHeader ledgerRoot statementRoot w).1 = .ok kept ∧
        kept = .inWindow w
          (inOrder (intakeLeft fs registry hasHeader ledger statements order).entries)
          (inOrder (intakeLeft fs registry hasHeader ledger statements order).lines) ∧
        kept.entries = (ledgerRows fs hasHeader ledger).filter w.keepsEntry ∧
        kept.lines = (statementRows fs registry hasHeader statements).filter w.keepsLine) ∧
    ∀ (schedule schedule' : Schedule),
      (Intake.read fs registry schedule hasHeader ledgerRoot statementRoot w).1
        = (Intake.read fs registry schedule' hasHeader ledgerRoot statementRoot w).1 := by
  refine ⟨?_, ?_, ?_⟩
  · intro ι α read files order horder
    exact ⟨inOrder_foldl_leave read files horder,
      fun schedule log => readAll_records schedule read files log⟩
  · intro ledger statements hledger hstatements order horder schedule
    obtain ⟨hentries, hlines⟩ := inOrder_intakeLeft horder fs registry hasHeader
    refine ⟨_, read_eq hledger hstatements registry schedule hasHeader, ?_, rfl, rfl⟩
    rw [hentries, hlines]
  · intro schedule schedule'
    exact (read_schedule schedule schedule' fs registry hasHeader ledgerRoot statementRoot w).1

end

/-- A ledger file: the names of its columns, and its rows. -/
def ledgerBytes (rows : String) : Bytes :=
  Text.encode ("TrxID,TransactionTime,Type,Amount\n" ++ rows)

/-- Two ledger files, and the statement files of two banks. -/
def interleavedFiles : FlatFiles :=
  .ofList
    [(⟨"system/a.csv"⟩, ledgerBytes
        "A,2025-03-09 10:00:00,DEBIT,5\nB,2025-03-09 11:00:00,DEBIT,6\n"),
      (⟨"system/b.csv"⟩, ledgerBytes "C,2025-03-09 10:00:00,DEBIT,7\n"),
      (⟨"bank/bca/c.csv"⟩, Text.encode "BCAUniqueIdentifier,BCADate,BCAAmount\nD,2025-03-09,5\n"),
      (⟨"bank/bni/d.csv"⟩, Text.encode "BNIUniqueIdentifier,BNIDate,BNIAmount\nE,2025-03-09,5\n")]

/-- The last ledger file and the statement file of the bank without a reader finish first. -/
theorem interleavedFiles_read_same :
    IsInterleaving 2 2 [.inr 1, .inl 1, .inr 0, .inl 0] ∧
      ∃ kept, (Intake.read interleavedFiles (Registry.empty.register "BCA" (.ofKind .bca)) .reversed
          true ⟨"system"⟩ ⟨"bank"⟩ failingWindow).1 = .ok kept ∧
        kept.entries.map LedgerEntry.id = ["A", "B", "C"] ∧
        kept.lines.map StatementLine.id = ["D"] := by
  have horder : IsInterleaving 2 2 [.inr 1, .inl 1, .inr 0, .inl 0] := by decide
  have hledger : ledgerFiles interleavedFiles ⟨"system"⟩
      = .ok [⟨"system/a.csv"⟩, ⟨"system/b.csv"⟩] := by decide +kernel
  have hstatements : statementFiles interleavedFiles ⟨"bank"⟩ failingWindow
      = .ok [⟨"BCA", ⟨"bank/bca/c.csv"⟩⟩, ⟨"BNI", ⟨"bank/bni/d.csv"⟩⟩] := by decide +kernel
  obtain ⟨-, hread, -⟩ := Intake.read_same_under_every_interleaving interleavedFiles
    (Registry.empty.register "BCA" (.ofKind .bca)) true ⟨"system"⟩ ⟨"bank"⟩ failingWindow
  obtain ⟨kept, hkept, -, hentries, hlines⟩ := hread _ _ hledger hstatements _ horder .reversed
  refine ⟨horder, kept, hkept, ?_, ?_⟩
  · rw [hentries]
    decide +kernel
  · rw [hlines]
    decide +kernel

end LedgerMatch
