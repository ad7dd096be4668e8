import LedgerMatch.Proofs.Binary64.Order
import LedgerMatch.Proofs.Matching.Groups
import LedgerMatch.Staging.Tables

/-!
# Sound tables

The rows of staging tables are numbered in the order in which they were staged and hold finite
numbers. No row takes part in two pairs, and every pair joins two rows in scope that share a key.
Staging and matching keep tables sound, and only add to them: rows behind rows and pairs behind
pairs.
-/

namespace LedgerMatch

namespace Tables

/-! ### Tables that others extend -/

/-- Tables with the rows and pairs of other tables in front of their own. -/
structure Extends (t u : Tables) : Prop where
  scope : u.scope = t.scope
  ledger : t.ledger <+: u.ledger
  statements : t.statements <+: u.statements
  pairs : t.pairs <+: u.pairs

theorem Extends.refl (t : Tables) : t.Extends t :=
  ⟨rfl, List.prefix_refl _, List.prefix_refl _, List.prefix_refl _⟩

theorem Extends.trans {t u v : Tables} (h : t.Extends u) (h' : u.Extends v) : t.Extends v :=
  ⟨h'.scope.trans h.scope, h.ledger.trans h'.ledger, h.statements.trans h'.statements,
    h.pairs.trans h'.pairs⟩

theorem Extends.mem_scopedLedger {t u : Tables} (h : t.Extends u) {r : LedgerRow}
    (hr : r ∈ t.scopedLedger) : r ∈ u.scopedLedger := by
  rw [scopedLedger, List.mem_filter] at hr ⊢
  rw [h.scope]
  exact ⟨h.ledger.subset hr.1, hr.2⟩

theorem Extends.mem_scopedStatements {t u : Tables} (h : t.Extends u) {r : StatementRow}
    (hr : r ∈ t.scopedStatements) : r ∈ u.scopedStatements := by
  rw [scopedStatements, List.mem_filter] at hr ⊢
  rw [h.scope]
  exact ⟨h.statements.subset hr.1, hr.2⟩

/-! ### Soundness -/

/-- A pair joins two rows in scope that share a key. -/
def Joins (t : Tables) (p : Pair) : Prop :=
  ∃ l ∈ t.scopedLedger, ∃ s ∈ t.scopedStatements, l.key = s.key ∧ p = pairOf l s

/-- What holds of tables after any number of operations. -/
structure Sound (t : Tables) : Prop where
  ledger_numbers : t.ledger.map LedgerRow.number = List.range' 1 t.ledger.length
  statement_numbers : t.statements.map StatementRow.number = List.range' 1 t.statements.length
  ledger_rows : ∀ r ∈ t.ledger, isFinite r.real = true ∧ ∃ e, r = .ofEntry r.number e
  statement_rows : ∀ r ∈ t.statements, isFinite r.real = true ∧ ∃ l, r = .ofLine r.number l
  pairs_apart : t.pairs.Pairwise Pair.Apart
  pairs_join : ∀ p ∈ t.pairs, t.Joins p

theorem Extends.joins {t u : Tables} (h : t.Extends u) {p : Pair} (hp : t.Joins p) :
    u.Joins p := by
  obtain ⟨l, hl, s, hs, hkey, rfl⟩ := hp
  exact ⟨l, h.mem_scopedLedger hl, s, h.mem_scopedStatements hs, hkey, rfl⟩

theorem isFinite_iff {x : Binary64} : isFinite x = true ↔ x.IsFinite := by
  constructor
  · intro h
    cases x with
    | finite s n hn => exact ⟨s, n, hn, rfl⟩
    | infinite s => cases h
    | nan => cases h
  · rintro ⟨s, n, hn, rfl⟩
    rfl

theorem fresh_sound (w : Window) : (fresh w).Sound where
  ledger_numbers := rfl
  statement_numbers := rfl
  ledger_rows := by simp [fresh]
  statement_rows := by simp [fresh]
  pairs_apart := List.Pairwise.nil
  pairs_join := by simp [fresh]

section

variable {t : Tables}

theorem Sound.nodup_ledger (h : t.Sound) : (t.ledger.map LedgerRow.number).Nodup := by
  rw [h.ledger_numbers]
  exact List.nodup_range'

theorem Sound.nodup_statements (h : t.Sound) :
    (t.statements.map StatementRow.number).Nodup := by
  rw [h.statement_numbers]
  exact List.nodup_range'

theorem Sound.ledger_finite (h : t.Sound) {r : LedgerRow} (hr : r ∈ t.ledger) :
    r.real.IsFinite :=
  isFinite_iff.1 (h.ledger_rows r hr).1

/-- The size of a statement row is the number of its amount without the sign. -/
theorem Sound.size_eq (h : t.Sound) {r : StatementRow} (hr : r ∈ t.statements) :
    r.size = r.real.abs := by
  obtain ⟨-, l, hrow⟩ := h.statement_rows r hr
  rw [hrow]
  rfl

theorem Sound.size_finite (h : t.Sound) {r : StatementRow} (hr : r ∈ t.statements) :
    r.size.IsFinite := by
  obtain ⟨s, n, hn, hreal⟩ := isFinite_iff.1 (h.statement_rows r hr).1
  rw [h.size_eq hr, hreal]
  exact ⟨false, n, hn, rfl⟩

theorem mem_ledger_of_mem_openLedger {r : LedgerRow} (hr : r ∈ t.openLedger) : r ∈ t.ledger :=
  (List.mem_filter.1 (List.mem_filter.1 hr).1).1

theorem mem_statements_of_mem_openStatements {r : StatementRow} (hr : r ∈ t.openStatements) :
    r ∈ t.statements :=
  (List.mem_filter.1 (List.mem_filter.1 hr).1).1

end

/-! ### Staging keeps tables sound -/

/-- The ledger rows of entries behind so many rows. -/
def entryRows (count : Nat) (entries : List LedgerEntry) : List LedgerRow :=
  entries.zipIdx.map fun e => .ofEntry (count + 1 + e.2) e.1

/-- The statement rows of lines behind so many rows. -/
def lineRows (count : Nat) (lines : List StatementLine) : List StatementRow :=
  lines.zipIdx.map fun l => .ofLine (count + 1 + l.2) l.1

theorem addEntries_eq (t : Tables) (entries : List LedgerEntry) :
    t.addEntries entries =
      if (entryRows t.ledger.length entries).all fun r => isFinite r.real then
        .ok { t with ledger := t.ledger ++ entryRows t.ledger.length entries }
      else .error .staging :=
  rfl

theorem addLines_eq (t : Tables) (lines : List StatementLine) :
    t.addLines lines =
      if (lineRows t.statements.length lines).all fun r => isFinite r.real then
        .ok { t with statements := t.statements ++ lineRows t.statements.length lines }
      else .error .staging :=
  rfl

theorem map_number_entryRows (count : Nat) (entries : List LedgerEntry) :
    (entryRows count entries).map LedgerRow.number = List.range' (1 + count) entries.length := by
  have hfun : (LedgerRow.number ∘ fun e : LedgerEntry × Nat => .ofEntry (count + 1 + e.2) e.1)
      = (count + 1 + ·) ∘ Prod.snd := rfl
  rw [entryRows, List.map_map, hfun, ← List.map_map, List.zipIdx_map_snd, List.map_add_range',
    Nat.add_zero, Nat.add_comm count 1]

theorem map_number_lineRows (count : Nat) (lines : List StatementLine) :
    (lineRows count lines).map StatementRow.number = List.range' (1 + count) lines.length := by
  have hfun : (StatementRow.number ∘ fun l : StatementLine × Nat => .ofLine (count + 1 + l.2) l.1)
      = (count + 1 + ·) ∘ Prod.snd := rfl
  rw [lineRows, List.map_map, hfun, ← List.map_map, List.zipIdx_map_snd, List.map_add_range',
    Nat.add_zero, Nat.add_comm count 1]

@[simp] theorem length_entryRows (count : Nat) (entries : List LedgerEntry) :
    (entryRows count entries).length = entries.length := by
  simp [entryRows]

@[simp] theorem length_lineRows (count : Nat) (lines : List StatementLine) :
    (lineRows count lines).length = lines.length := by
  simp [lineRows]

section

variable {t u : Tables}

theorem addEntries_sound {entries : List LedgerEntry} (h : t.Sound)
    (hadd : t.addEntries entries = .ok u) : u.Sound ∧ t.Extends u := by
  rw [addEntries_eq] at hadd
  split at hadd
  · next hall =>
      have hext : t.Extends u := by
        cases hadd
        exact ⟨rfl, List.prefix_append _ _, List.prefix_refl _, List.prefix_refl _⟩
      have hjoin : ∀ p ∈ t.pairs, u.Joins p := fun p hp => hext.joins (h.pairs_join p hp)
      cases hadd
      refine ⟨{ h with ledger_numbers := ?_, ledger_rows := ?_, pairs_join := hjoin }, hext⟩
      · rw [List.map_append, h.ledger_numbers, map_number_entryRows, List.length_append,
          length_entryRows, List.range'_append_1]
      · intro r hr
        rcases List.mem_append.1 hr with hold | hnew
        · exact h.ledger_rows r hold
        · refine ⟨List.all_eq_true.1 hall r hnew, ?_⟩
          obtain ⟨e, -, rfl⟩ := List.mem_map.1 hnew
          exact ⟨e.1, rfl⟩
  · cases hadd

theorem addLines_sound {lines : List StatementLine} (h : t.Sound)
    (hadd : t.addLines lines = .ok u) : u.Sound ∧ t.Extends u := by
  rw [addLines_eq] at hadd
  split at hadd
  · next hall =>
      have hext : t.Extends u := by
        cases hadd
        exact ⟨rfl, List.prefix_refl _, List.prefix_append _ _, List.prefix_refl _⟩
      have hjoin : ∀ p ∈ t.pairs, u.Joins p := fun p hp => hext.joins (h.pairs_join p hp)
      cases hadd
      refine ⟨{ h with statement_numbers := ?_, statement_rows := ?_, pairs_join := hjoin }, hext⟩
      · rw [List.map_append, h.statement_numbers, map_number_lineRows, List.length_append,
          length_lineRows, List.range'_append_1]
      · intro r hr
        rcases List.mem_append.1 hr with hold | hnew
        · exact h.statement_rows r hold
        · refine ⟨List.all_eq_true.1 hall r hnew, ?_⟩
          obtain ⟨l, -, rfl⟩ := List.mem_map.1 hnew
          exact ⟨l.1, rfl⟩
  · cases hadd

end

/-! ### Sequences -/

/-- What each operation keeps, a sequence of them keeps, also one that fails on the way. -/
theorem sequence_sound {α : Type} {op : Tables → α → Except Failure Tables}
    (hop : ∀ t a u, t.Sound → op t a = .ok u → u.Sound ∧ t.Extends u) (as : List α) {t : Tables}
    (h : t.Sound) : (t.sequence op as).2.Sound ∧ t.Extends (t.sequence op as).2 := by
  induction as generalizing t with
  | nil => exact ⟨h, .refl t⟩
  | cons a rest ih =>
      rw [sequence]
      split
      · next u hok =>
          obtain ⟨hsound, hext⟩ := hop t a u h hok
          obtain ⟨hsound', hext'⟩ := ih hsound
          exact ⟨hsound', hext.trans hext'⟩
      · exact ⟨h, .refl t⟩

theorem importEntries_sound {t : Tables} (h : t.Sound) (entries : List LedgerEntry)
    (chunks : Nat) :
    (t.importEntries entries chunks).2.Sound ∧ t.Extends (t.importEntries entries chunks).2 :=
  sequence_sound (fun _ _ _ => addEntries_sound) _ h

theorem importLines_sound {t : Tables} (h : t.Sound) (lines : List StatementLine) (chunks : Nat) :
    (t.importLines lines chunks).2.Sound ∧ t.Extends (t.importLines lines chunks).2 :=
  sequence_sound (fun _ _ _ => addLines_sound) _ h

end Tables

end LedgerMatch
