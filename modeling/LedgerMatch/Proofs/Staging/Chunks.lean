import LedgerMatch.Proofs.Amount.Size
import LedgerMatch.Proofs.Binary64.Extended
import LedgerMatch.Proofs.Partition
import LedgerMatch.Proofs.Staging.Tables
import LedgerMatch.Staging.Area

/-!
# Staging in chunks

The number of every amount is finite, so that any records can be staged. Chunks follow each other in
the records, and rows are numbered on from chunk to chunk. So the rows that are staged do not depend
on the number of chunks.
-/

namespace LedgerMatch

/-- The number that stands beside a staged amount is finite. -/
theorem Amount.staged_isFinite (a : Amount) : a.staged.IsFinite :=
  (a.real_atMost.reread (by decide)).isFinite

namespace Tables

/-- An operation that adds records, some behind others, adds all chunks like one. -/
theorem sequence_chunks {α : Type} {op : Tables → List α → Except Failure Tables}
    {add : Tables → List α → Tables} (hop : ∀ t records, op t records = .ok (add t records))
    (hnil : ∀ t, add t [] = t) (hadd : ∀ t as bs, add (add t as) bs = add t (as ++ bs))
    (chunks : List (List α)) (t : Tables) :
    t.sequence op chunks = (.ok (), add t chunks.flatten) := by
  induction chunks generalizing t with
  | nil => rw [sequence, List.flatten_nil, hnil]
  | cons chunk rest ih => rw [sequence_cons_ok (hop t chunk), ih, hadd, List.flatten_cons]

/-! ### Ledger rows -/

/-- The tables with the rows of entries behind their own. -/
def withEntries (t : Tables) (es : List LedgerEntry) : Tables :=
  { t with ledger := t.ledger ++ entryRows t.ledger.length es }

theorem entryRows_append (count : Nat) (es fs : List LedgerEntry) :
    entryRows count (es ++ fs) = entryRows count es ++ entryRows (count + es.length) fs := by
  rw [entryRows]
  rw [List.zipIdx_append, List.map_append, Nat.zero_add, List.zipIdx_eq_map_add (i := es.length),
    List.map_map]
  congr 1
  refine List.map_congr_left fun e _ => ?_
  show LedgerRow.ofEntry (count + 1 + (es.length + e.2)) e.1 = _
  rw [show count + 1 + (es.length + e.2) = count + es.length + 1 + e.2 by omega]

theorem withEntries_append (t : Tables) (es fs : List LedgerEntry) :
    (t.withEntries es).withEntries fs = t.withEntries (es ++ fs) := by
  simp only [withEntries, List.length_append, length_entryRows, List.append_assoc, entryRows_append]

theorem withEntries_nil (t : Tables) : t.withEntries [] = t := by
  simp [withEntries, entryRows]

theorem addEntries_eq_withEntries (t : Tables) (es : List LedgerEntry) :
    t.addEntries es = .ok (t.withEntries es) := by
  have hall : ((entryRows t.ledger.length es).all fun r => isFinite r.real) = true := by
    refine List.all_eq_true.2 fun r hr => ?_
    obtain ⟨e, -, rfl⟩ := List.mem_map.1 hr
    exact isFinite_iff.2 e.1.amount.staged_isFinite
  rw [addEntries_eq, if_pos hall]
  rfl

/-- Staging entries adds their rows, in any number of chunks. -/
theorem importEntries_eq (t : Tables) (es : List LedgerEntry) (chunks : Nat) :
    t.importEntries es chunks = (.ok (), t.withEntries es) := by
  rw [importEntries, sequence_chunks addEntries_eq_withEntries withEntries_nil withEntries_append,
    flatten_slice_indexRanges]

/-! ### Statement rows -/

/-- The tables with the rows of lines behind their own. -/
def withLines (t : Tables) (ls : List StatementLine) : Tables :=
  { t with statements := t.statements ++ lineRows t.statements.length ls }

theorem lineRows_append (count : Nat) (ls ms : List StatementLine) :
    lineRows count (ls ++ ms) = lineRows count ls ++ lineRows (count + ls.length) ms := by
  rw [lineRows]
  rw [List.zipIdx_append, List.map_append, Nat.zero_add, List.zipIdx_eq_map_add (i := ls.length),
    List.map_map]
  congr 1
  refine List.map_congr_left fun l _ => ?_
  show StatementRow.ofLine (count + 1 + (ls.length + l.2)) l.1 = _
  rw [show count + 1 + (ls.length + l.2) = count + ls.length + 1 + l.2 by omega]

theorem withLines_append (t : Tables) (ls ms : List StatementLine) :
    (t.withLines ls).withLines ms = t.withLines (ls ++ ms) := by
  simp only [withLines, List.length_append, length_lineRows, List.append_assoc, lineRows_append]

theorem withLines_nil (t : Tables) : t.withLines [] = t := by
  simp [withLines, lineRows]

theorem addLines_eq_withLines (t : Tables) (ls : List StatementLine) :
    t.addLines ls = .ok (t.withLines ls) := by
  have hall : ((lineRows t.statements.length ls).all fun r => isFinite r.real) = true := by
    refine List.all_eq_true.2 fun r hr => ?_
    obtain ⟨l, -, rfl⟩ := List.mem_map.1 hr
    exact isFinite_iff.2 l.1.amount.staged_isFinite
  rw [addLines_eq, if_pos hall]
  rfl

/-- Staging lines adds their rows, in any number of chunks. -/
theorem importLines_eq (t : Tables) (ls : List StatementLine) (chunks : Nat) :
    t.importLines ls chunks = (.ok (), t.withLines ls) := by
  rw [importLines, sequence_chunks addLines_eq_withLines withLines_nil withLines_append,
    flatten_slice_indexRanges]

end Tables

/-! ### Areas with tables -/

namespace Staging

/-- A change of the tables that an area has. -/
theorem update_some (t : Tables) (op : Tables → Except Failure Unit × Tables) :
    update ⟨some t⟩ op = ((op t).1, ⟨some (op t).2⟩) :=
  rfl

theorem importEntries_some (t : Tables) (entries : List LedgerEntry) (chunks : Nat) :
    importEntries ⟨some t⟩ entries chunks = (.ok (), ⟨some (t.withEntries entries)⟩) := by
  rw [importEntries]
  split
  · next hnone => rw [hnone, Tables.withEntries_nil]
  · rw [update_some, Tables.importEntries_eq]

theorem importLines_some (t : Tables) (lines : List StatementLine) (chunks : Nat) :
    importLines ⟨some t⟩ lines chunks = (.ok (), ⟨some (t.withLines lines)⟩) := by
  rw [importLines]
  split
  · next hnone => rw [hnone, Tables.withLines_nil]
  · rw [update_some, Tables.importLines_eq]

end Staging

end LedgerMatch
