import LedgerMatch.Proofs.Staging.Chunks

/-!
# Ranges of a length

A length is divided into consecutive ranges without gap or overlap. None of them is empty, there are
as many as asked for if the length suffices, and their sizes differ by at most one, the larger ones in
front. Records that are staged range by range are therefore staged once each and in their order, and
their rows are numbered as if there had been one range alone.
-/

namespace LedgerMatch

/-! ### Consecutive ranges -/

/-- Ranges that follow each other from a start to a stop, none of them empty. -/
inductive Consecutive : Nat → List (Nat × Nat) → Nat → Prop where
  | nil (start : Nat) : Consecutive start [] start
  | cons {start next stop : Nat} {ranges : List (Nat × Nat)} (h : start < next)
      (rest : Consecutive next ranges stop) : Consecutive start ((start, next) :: ranges) stop

theorem Consecutive.le {start stop : Nat} {ranges : List (Nat × Nat)}
    (h : Consecutive start ranges stop) : start ≤ stop := by
  induction h with
  | nil => exact Nat.le_refl _
  | cons hlt _ ih => exact Nat.le_trans (Nat.le_of_lt hlt) ih

theorem Consecutive.lt_of_mem {start stop : Nat} {ranges : List (Nat × Nat)}
    (h : Consecutive start ranges stop) {r : Nat × Nat} (hr : r ∈ ranges) : r.1 < r.2 := by
  induction h with
  | nil => cases hr
  | cons hlt _ ih =>
      rcases List.mem_cons.1 hr with rfl | hrest
      · exact hlt
      · exact ih hrest

/-- The places of consecutive ranges are all places from the start to the stop, each once. -/
theorem Consecutive.places {start stop : Nat} {ranges : List (Nat × Nat)}
    (h : Consecutive start ranges stop) :
    ranges.flatMap (fun r => List.range' r.1 (r.2 - r.1)) = List.range' start (stop - start) := by
  induction h with
  | nil start => rw [Nat.sub_self]; rfl
  | @cons start next stop ranges hlt hrest ih =>
      have hle := hrest.le
      have hfirst := List.range'_append_1 (s := start) (m := next - start) (n := stop - next)
      rw [Nat.add_sub_cancel' (Nat.le_of_lt hlt)] at hfirst
      rw [List.flatMap_cons, ih, hfirst]
      congr 1
      omega

section

-- The zero that a sum begins with is the core one.
attribute [local instance (2000)] Zero.ofOfNat0

theorem consecutive_rangesOfSizes {sizes : List Nat} (h : ∀ size ∈ sizes, 0 < size) (start : Nat) :
    Consecutive start (rangesOfSizes start sizes) (start + sizes.sum) := by
  induction sizes generalizing start with
  | nil => exact .nil start
  | cons size sizes ih =>
      obtain ⟨hsize, hsizes⟩ := List.forall_mem_cons.1 h
      rw [List.sum_cons, ← Nat.add_assoc]
      exact .cons (by omega) (ih hsizes _)

end

/-- The size of a range. -/
def rangeSize (r : Nat × Nat) : Nat := r.2 - r.1

theorem map_rangeSize_rangesOfSizes (start : Nat) (sizes : List Nat) :
    (rangesOfSizes start sizes).map rangeSize = sizes := by
  induction sizes generalizing start with
  | nil => rfl
  | cons size sizes ih => rw [rangesOfSizes, List.map_cons, ih, rangeSize, Nat.add_sub_cancel_left]

/-! ### Sizes of parts -/

section

variable {length parts : Nat}

theorem partSizes_length (h : 0 < parts) : (partSizes length parts).length = min length parts := by
  rw [partSizes]
  split
  · rw [List.length_replicate]
    omega
  · have hmod := Nat.mod_lt length h
    rw [List.length_append, List.length_replicate, List.length_replicate]
    omega

theorem pos_of_mem_partSizes (h : 0 < parts) {size : Nat} (hsize : size ∈ partSizes length parts) :
    0 < size := by
  rw [partSizes] at hsize
  split at hsize
  · rw [List.eq_of_mem_replicate hsize]
    exact Nat.one_pos
  · have hbase : 0 < length / parts := Nat.div_pos (by omega) h
    rcases List.mem_append.1 hsize with hlarger | hother
    · rw [List.eq_of_mem_replicate hlarger]
      omega
    · rw [List.eq_of_mem_replicate hother]
      exact hbase

/-- A part has the size of any later one, or one more. -/
theorem pairwise_partSizes (length parts : Nat) :
    (partSizes length parts).Pairwise fun a b => b ≤ a ∧ a ≤ b + 1 := by
  rw [partSizes]
  split
  · rw [List.pairwise_replicate]
    omega
  · rw [List.pairwise_append, List.pairwise_replicate, List.pairwise_replicate]
    refine ⟨by omega, by omega, fun a ha b hb => ?_⟩
    rw [List.eq_of_mem_replicate ha, List.eq_of_mem_replicate hb]
    omega

end

/-! ### Cutting off one range after the other -/

/-- Cuts off at most so many ranges, one after the other. Those with a number below that of the larger
ones have one more than the base, and the first empty one ends the list. -/
def cutRanges (base larger start number : Nat) : Nat → List (Nat × Nat)
  | 0 => []
  | remaining + 1 =>
      let size := if number < larger then base + 1 else base
      if size = 0 then []
      else (start, start + size) :: cutRanges base larger (start + size) (number + 1) remaining

/-- The sizes of the ranges that are still to be cut off. -/
def sizesFrom (base larger number remaining : Nat) : List Nat :=
  List.replicate (min (larger - number) remaining) (base + 1) ++
    if base = 0 then [] else List.replicate (remaining - (larger - number)) base

theorem cutRanges_eq (base larger start number remaining : Nat) :
    cutRanges base larger start number remaining
      = rangesOfSizes start (sizesFrom base larger number remaining) := by
  induction remaining generalizing start number with
  | zero => simp [cutRanges, sizesFrom, rangesOfSizes]
  | succ remaining ih =>
      by_cases hlarger : number < larger
      · -- a larger range is cut off, and one fewer is left
        have hsizes : sizesFrom base larger number (remaining + 1)
            = (base + 1) :: sizesFrom base larger (number + 1) remaining := by
          have hcount : min (larger - number) (remaining + 1)
              = min (larger - (number + 1)) remaining + 1 := by omega
          have hrest : remaining + 1 - (larger - number) = remaining - (larger - (number + 1)) := by
            omega
          rw [sizesFrom, hcount, hrest, List.replicate_succ, List.cons_append, sizesFrom]
        rw [cutRanges]
        simp only [hlarger, if_true]
        rw [if_neg (Nat.succ_ne_zero base), ih, hsizes, rangesOfSizes]
      · -- all larger ranges are cut off
        have hnone : larger - number = 0 := by omega
        have hnext : larger - (number + 1) = 0 := by omega
        rw [cutRanges]
        simp only [hlarger, if_false]
        by_cases hbase : base = 0
        · simp [hbase, sizesFrom, hnone, rangesOfSizes]
        · rw [if_neg hbase, ih]
          simp [sizesFrom, hnone, hnext, hbase, List.replicate_succ, rangesOfSizes]

/-- A length is divided as by cutting off ranges of the quotient, with one more for each of as many
as the remainder. -/
theorem indexRanges_eq_cutRanges (length parts : Nat) :
    indexRanges length parts
      = cutRanges (length / Nat.max parts 1) (length % Nat.max parts 1) 0 0 (Nat.max parts 1) := by
  have hpos : 0 < Nat.max parts 1 := Nat.lt_of_lt_of_le Nat.zero_lt_one (Nat.le_max_right _ _)
  have hmod := Nat.mod_lt length hpos
  rw [indexRanges, cutRanges_eq, partSizes, sizesFrom, Nat.sub_zero,
    Nat.min_eq_left (Nat.le_of_lt hmod)]
  split
  · next hfew =>
      rw [Nat.div_eq_of_lt hfew, Nat.mod_eq_of_lt hfew, if_pos rfl, List.append_nil]
  · next hmany =>
      have hbase : length / Nat.max parts 1 ≠ 0 :=
        Nat.ne_of_gt (Nat.div_pos (Nat.not_lt.1 hmany) hpos)
      rw [if_neg hbase]

/-! ### Ranges and records -/

/-- Ranges that divide a length evenly into so many parts, at least one. -/
structure DividesEvenly (length parts : Nat) (ranges : List (Nat × Nat)) : Prop where
  count : ranges.length = min length (Nat.max parts 1)
  consecutive : Consecutive 0 ranges length
  places : ranges.flatMap (fun r => List.range' r.1 (r.2 - r.1)) = List.range length
  nonempty : ∀ r ∈ ranges, r.1 < r.2
  near_equal : ranges.Pairwise fun r s => rangeSize s ≤ rangeSize r ∧ rangeSize r ≤ rangeSize s + 1

theorem dividesEvenly_indexRanges (length parts : Nat) :
    DividesEvenly length parts (indexRanges length parts) := by
  have hpos : 0 < Nat.max parts 1 := Nat.lt_of_lt_of_le Nat.zero_lt_one (Nat.le_max_right _ _)
  have hsizes := map_rangeSize_rangesOfSizes 0 (partSizes length (Nat.max parts 1))
  have hconsecutive : Consecutive 0 (indexRanges length parts) length := by
    have hsizesPos : ∀ size ∈ partSizes length (Nat.max parts 1), 0 < size :=
      fun _ hsize => pos_of_mem_partSizes hpos hsize
    have hall := consecutive_rangesOfSizes hsizesPos 0
    rwa [partSizes_sum length _ hpos, Nat.zero_add] at hall
  refine ⟨?_, hconsecutive, ?_, fun r hr => hconsecutive.lt_of_mem hr, ?_⟩
  · rw [indexRanges, ← List.length_map rangeSize, hsizes, partSizes_length hpos]
  · rw [hconsecutive.places, List.range_eq_range', Nat.sub_zero]
  · rw [indexRanges, ← List.pairwise_map (f := rangeSize)
      (R := fun a b => b ≤ a ∧ a ≤ b + 1), hsizes]
    exact pairwise_partSizes length _

namespace Tables

/-- The row at each place behind the old rows is that of the entry at this place, and has the number
of its place among all rows. -/
theorem ledger_withEntries_getElem? (t : Tables) (entries : List LedgerEntry) (i : Nat) :
    (t.withEntries entries).ledger[t.ledger.length + i]?
      = entries[i]?.map (LedgerRow.ofEntry (t.ledger.length + 1 + i)) := by
  rw [withEntries, entryRows, List.getElem?_append_right (Nat.le_add_right _ _),
    Nat.add_sub_cancel_left, List.getElem?_map, List.getElem?_zipIdx]
  cases entries[i]? with
  | none => rfl
  | some e => simp

theorem statements_withLines_getElem? (t : Tables) (lines : List StatementLine) (i : Nat) :
    (t.withLines lines).statements[t.statements.length + i]?
      = lines[i]?.map (StatementRow.ofLine (t.statements.length + 1 + i)) := by
  rw [withLines, lineRows, List.getElem?_append_right (Nat.le_add_right _ _),
    Nat.add_sub_cancel_left, List.getElem?_map, List.getElem?_zipIdx]
  cases lines[i]? with
  | none => rfl
  | some l => simp

/-- Tables with entries staged behind their old rows, each once, in their order and numbered on. -/
structure AppendsEntries (t u : Tables) (entries : List LedgerEntry) : Prop where
  others : u = { t with ledger := u.ledger }
  old : t.ledger <+: u.ledger
  count : u.ledger.length = t.ledger.length + entries.length
  rows : ∀ i, u.ledger[t.ledger.length + i]?
    = entries[i]?.map (LedgerRow.ofEntry (t.ledger.length + 1 + i))

/-- Tables with lines staged behind their old rows, each once, in their order and numbered on. -/
structure AppendsLines (t u : Tables) (lines : List StatementLine) : Prop where
  others : u = { t with statements := u.statements }
  old : t.statements <+: u.statements
  count : u.statements.length = t.statements.length + lines.length
  rows : ∀ i, u.statements[t.statements.length + i]?
    = lines[i]?.map (StatementRow.ofLine (t.statements.length + 1 + i))

theorem appendsEntries_withEntries (t : Tables) (entries : List LedgerEntry) :
    t.AppendsEntries (t.withEntries entries) entries where
  others := rfl
  old := List.prefix_append _ _
  count := by rw [withEntries, List.length_append, length_entryRows]
  rows := t.ledger_withEntries_getElem? entries

theorem appendsLines_withLines (t : Tables) (lines : List StatementLine) :
    t.AppendsLines (t.withLines lines) lines where
  others := rfl
  old := List.prefix_append _ _
  count := by rw [withLines, List.length_append, length_lineRows]
  rows := t.statements_withLines_getElem? lines

end Tables

/-- Ranges cover a length once, evenly, and are those that are cut off one after the other. Records
that are staged in any number of chunks are all staged, once each, behind the old rows, in their order
and numbered on, as they are in one chunk; and it is the same for areas without tables, which refuse
all records alike. -/
theorem ranges_cover_once :
    (∀ length parts, DividesEvenly length parts (indexRanges length parts) ∧
      indexRanges length parts
        = cutRanges (length / Nat.max parts 1) (length % Nat.max parts 1) 0 0 (Nat.max parts 1)) ∧
    (∀ (t : Tables) entries chunks, ∃ u, t.importEntries entries chunks = (.ok (), u) ∧
      t.AppendsEntries u entries) ∧
    (∀ (t : Tables) lines chunks, ∃ u, t.importLines lines chunks = (.ok (), u) ∧
      t.AppendsLines u lines) ∧
    (∀ (s : Staging) entries chunks,
      s.importEntries entries chunks = s.importEntries entries 1) ∧
    (∀ (s : Staging) lines chunks, s.importLines lines chunks = s.importLines lines 1) := by
  refine ⟨fun length parts =>
    ⟨dividesEvenly_indexRanges length parts, indexRanges_eq_cutRanges length parts⟩, ?_, ?_, ?_, ?_⟩
  · intro t entries chunks
    exact ⟨_, t.importEntries_eq entries chunks, t.appendsEntries_withEntries entries⟩
  · intro t lines chunks
    exact ⟨_, t.importLines_eq lines chunks, t.appendsLines_withLines lines⟩
  · rintro ⟨_ | t⟩ entries chunks
    · rfl
    · rw [Staging.importEntries_some, Staging.importEntries_some]
  · rintro ⟨_ | t⟩ lines chunks
    · rfl
    · rw [Staging.importLines_some, Staging.importLines_some]

/-- The larger ranges stand in front. -/
example : indexRanges 10 3 = [(0, 4), (4, 7), (7, 10)] := by decide

end LedgerMatch
