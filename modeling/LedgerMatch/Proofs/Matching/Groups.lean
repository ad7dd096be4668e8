import LedgerMatch.Proofs.Matching.Order
import Mathlib.Data.List.Dedup

/-!
# Matching by groups

The rows of one key form a group. Matching by ranks is the same as going from group to group and
putting the two sides of each, in their orders, next to each other. Since rows of one group have
one amount, it can be done apart for the rows of each of several buckets of amounts.
-/

namespace LedgerMatch

/-! ### Ranks -/

section

variable {α : Type} {key : α → MatchKey}

/-- The row of a group with a given rank is the one with that place in the group. -/
theorem find?_rankAfter (k : MatchKey) (rows : List α) (earlier : List MatchKey) (n : Nat) :
    (rankAfter key earlier rows).find? (fun s => key s.1 == k && s.2 == earlier.count k + n)
      = ((rows.filter (key · == k))[n]?).map fun r => (r, earlier.count k + n) := by
  induction rows generalizing earlier n with
  | nil => rfl
  | cons r rest ih =>
      rw [rankAfter, List.find?_cons]
      by_cases hk : key r = k
      · subst hk
        cases n with
        | zero => simp
        | succ m =>
            -- the row at the front has a lower rank, and counts for those behind it
            have hcount : (key r :: earlier).count (key r) = earlier.count (key r) + 1 := by simp
            have hrank : (earlier.count (key r) == earlier.count (key r) + (m + 1)) = false := by
              simp
            have hih := ih (key r :: earlier) m
            rw [hcount, Nat.add_assoc, Nat.add_comm 1 m] at hih
            simp only [beq_self_eq_true, hrank, Bool.and_false, hih, List.filter_cons_of_pos,
              List.getElem?_cons_succ]
      · have hcount : (key r :: earlier).count k = earlier.count k := by
          simp [hk]
        have hih := ih (key r :: earlier) n
        rw [hcount] at hih
        have hfalse : (key r == k) = false := by simpa using hk
        simp only [hfalse, Bool.false_and, hih, Bool.false_eq_true, not_false_eq_true,
          List.filter_cons_of_neg]

theorem find?_rank (k : MatchKey) (rows : List α) (n : Nat) :
    (rank key rows).find? (fun s => key s.1 == k && s.2 == n)
      = ((rows.filter (key · == k))[n]?).map fun r => (r, n) := by
  simpa [rank] using find?_rankAfter k rows [] n

/-- Rows have the ranks that come after the earlier rows of their groups. -/
theorem mem_rankAfter {rows : List α} {earlier : List MatchKey} {r : α} {i : Nat} :
    (r, i) ∈ rankAfter key earlier rows ↔
      ∃ n, i = earlier.count (key r) + n ∧ (rows.filter (key · == key r))[n]? = some r := by
  induction rows generalizing earlier with
  | nil => simp [rankAfter]
  | cons r' rest ih =>
      rw [rankAfter, List.mem_cons, ih]
      by_cases hk : key r' = key r
      · have hcount : (key r' :: earlier).count (key r) = earlier.count (key r) + 1 := by
          simp [hk]
        rw [hcount, List.filter_cons_of_pos (by simpa using hk)]
        constructor
        · rintro (hhead | ⟨n, rfl, hn⟩)
          · cases hhead
            exact ⟨0, rfl, rfl⟩
          · exact ⟨n + 1, by omega, hn⟩
        · rintro ⟨n, rfl, hn⟩
          cases n with
          | zero =>
              left
              rw [List.getElem?_cons_zero, Option.some.injEq] at hn
              rw [hn, Nat.add_zero]
          | succ m => exact Or.inr ⟨m, by omega, hn⟩
      · have hcount : (key r' :: earlier).count (key r) = earlier.count (key r) := by
          simp [hk]
        rw [hcount, List.filter_cons_of_neg (by simpa using hk)]
        constructor
        · rintro (hhead | htail)
          · cases hhead
            exact (hk rfl).elim
          · exact htail
        · exact Or.inr

theorem mem_rank {rows : List α} {r : α} {i : Nat} :
    (r, i) ∈ rank key rows ↔ (rows.filter (key · == key r))[i]? = some r := by
  simp [rank, mem_rankAfter]

theorem map_fst_rankAfter (key : α → MatchKey) (rows : List α) (earlier : List MatchKey) :
    (rankAfter key earlier rows).map Prod.fst = rows := by
  induction rows generalizing earlier with
  | nil => rfl
  | cons r rest ih => rw [rankAfter, List.map_cons, ih]

/-- No two rows of one group have one rank. -/
theorem pairwise_rankAfter (rows : List α) (earlier : List MatchKey) :
    (rankAfter key earlier rows).Pairwise fun a b => key a.1 = key b.1 → a.2 ≠ b.2 := by
  induction rows generalizing earlier with
  | nil => exact List.Pairwise.nil
  | cons r rest ih =>
      refine List.Pairwise.cons ?_ (ih _)
      rintro ⟨r', i⟩ hmem hk
      obtain ⟨n, rfl, -⟩ := mem_rankAfter.1 hmem
      have hcount : (key r :: earlier).count (key r') = earlier.count (key r') + 1 := by
        simp [hk]
      rw [hcount, hk]
      dsimp only
      omega

end

/-! ### Groups -/

/-- The ledger rows with a key, in their order. The key function says what they are grouped by. -/
def ledgerGroup (key : LedgerRow → MatchKey) (rows : List LedgerRow) (k : MatchKey) :
    List LedgerRow :=
  (rows.filter (key · == k)).mergeSort LedgerRow.le

/-- The statement rows with a key, in their order. -/
def statementGroup (key : StatementRow → MatchKey) (rows : List StatementRow) (k : MatchKey) :
    List StatementRow :=
  (rows.filter (key · == k)).mergeSort StatementRow.le

/-- Two rows as a pair. -/
def pairOf (l : LedgerRow) (s : StatementRow) : Pair := ⟨l.number, s.number⟩

/-- Group by group, the first ledger row with the first statement row, the second with the second,
as far as both sides reach. -/
def matchGroups (ledgerKey : LedgerRow → MatchKey) (statementKey : StatementRow → MatchKey)
    (ledger : List LedgerRow) (statements : List StatementRow) : List Pair :=
  (ledger.map ledgerKey).dedup.flatMap fun k =>
    List.zipWith pairOf (ledgerGroup ledgerKey ledger k) (statementGroup statementKey statements k)

/-- A pair that joins two rows with one place in the two sides of the group of a key. -/
def MatchedAt (ledger : List LedgerRow) (statements : List StatementRow) (k : MatchKey) (p : Pair) :
    Prop :=
  ∃ (i : Nat) (l : LedgerRow) (s : StatementRow),
    (ledgerGroup LedgerRow.key ledger k)[i]? = some l ∧
      (statementGroup StatementRow.key statements k)[i]? = some s ∧ p = pairOf l s

/-- A pair that joins two rows with one place in the two sides of one group. -/
def IsMatch (ledger : List LedgerRow) (statements : List StatementRow) (p : Pair) : Prop :=
  ∃ k, MatchedAt ledger statements k p

section

variable {ledger : List LedgerRow} {statements : List StatementRow} {p : Pair}

theorem mem_ledgerGroup {key : LedgerRow → MatchKey} {k : MatchKey} {l : LedgerRow} :
    l ∈ ledgerGroup key ledger k ↔ l ∈ ledger ∧ key l = k := by
  simp [ledgerGroup]

theorem mem_statementGroup {key : StatementRow → MatchKey} {k : MatchKey} {s : StatementRow} :
    s ∈ statementGroup key statements k ↔ s ∈ statements ∧ key s = k := by
  simp [statementGroup]

/-- A pair joins rows of one key. -/
theorem IsMatch.exists_rows (h : IsMatch ledger statements p) :
    ∃ l ∈ ledger, ∃ s ∈ statements, l.key = s.key ∧ p = pairOf l s := by
  obtain ⟨k, i, l, s, hl, hs, rfl⟩ := h
  obtain ⟨hlmem, hlk⟩ := mem_ledgerGroup.1 (List.mem_of_getElem? hl)
  obtain ⟨hsmem, hsk⟩ := mem_statementGroup.1 (List.mem_of_getElem? hs)
  exact ⟨l, hlmem, s, hsmem, hlk.trans hsk.symm, rfl⟩

theorem mem_matchGroups :
    p ∈ matchGroups LedgerRow.key StatementRow.key ledger statements ↔
      IsMatch ledger statements p := by
  unfold matchGroups IsMatch MatchedAt
  rw [List.mem_flatMap]
  constructor
  · rintro ⟨k, -, hmem⟩
    obtain ⟨i, hi⟩ := List.mem_iff_getElem?.1 hmem
    obtain ⟨l, s, hl, hs, hp⟩ := List.getElem?_zipWith_eq_some.1 hi
    exact ⟨k, i, l, s, hl, hs, hp.symm⟩
  · rintro ⟨k, i, l, s, hl, hs, rfl⟩
    obtain ⟨hmem, rfl⟩ := mem_ledgerGroup.1 (List.mem_of_getElem? hl)
    refine ⟨l.key, List.mem_dedup.2 (List.mem_map_of_mem hmem), ?_⟩
    exact List.mem_iff_getElem?.2 ⟨i, List.getElem?_zipWith_eq_some.2 ⟨l, s, hl, hs, rfl⟩⟩

/-- The rows picked by their amount hold the whole groups of the amounts picked. -/
theorem ledgerGroup_filter (P : Binary64 → Bool) {k : MatchKey} (hk : P k.amount = true) :
    ledgerGroup LedgerRow.key (ledger.filter fun r => P r.real) k
      = ledgerGroup LedgerRow.key ledger k := by
  rw [ledgerGroup]
  rw [List.filter_filter]
  congr 1
  refine List.filter_congr fun r _ => ?_
  by_cases hr : r.key = k
  · subst hr
    have hreal : P r.real = true := hk
    simp [hreal]
  · simp [hr]

theorem statementGroup_filter (P : Binary64 → Bool) {k : MatchKey} (hk : P k.amount = true) :
    statementGroup StatementRow.key (statements.filter fun r => P r.size) k
      = statementGroup StatementRow.key statements k := by
  rw [statementGroup]
  rw [List.filter_filter]
  congr 1
  refine List.filter_congr fun r _ => ?_
  by_cases hr : r.key = k
  · subst hr
    have hsize : P r.size = true := hk
    simp [hsize]
  · simp [hr]

/-- Matching the rows picked by their amount is matching all rows at the amounts picked. -/
theorem isMatch_filter (P : Binary64 → Bool) :
    IsMatch (ledger.filter fun r => P r.real) (statements.filter fun r => P r.size) p ↔
      ∃ k, P k.amount = true ∧ MatchedAt ledger statements k p := by
  constructor
  · rintro ⟨k, i, l, s, hl, hs, rfl⟩
    obtain ⟨hmem, rfl⟩ := mem_ledgerGroup.1 (List.mem_of_getElem? hl)
    have hP : P l.key.amount = true := (List.mem_filter.1 hmem).2
    rw [ledgerGroup_filter P hP] at hl
    rw [statementGroup_filter P hP] at hs
    exact ⟨l.key, hP, i, l, s, hl, hs, rfl⟩
  · rintro ⟨k, hP, i, l, s, hl, hs, rfl⟩
    rw [← ledgerGroup_filter P hP] at hl
    rw [← statementGroup_filter P hP] at hs
    exact ⟨k, i, l, s, hl, hs, rfl⟩

/-! ### Matching by ranks -/

variable (hledger : (ledger.map LedgerRow.number).Nodup)
  (hstatements : (statements.map StatementRow.number).Nodup)

include hledger in
/-- Rows with numbers of their own have one order. -/
theorem ledgerRow_antisymm : ∀ a ∈ ledger, ∀ b ∈ ledger, a.le b = true → b.le a = true → a = b :=
  fun _ ha _ hb hab hba =>
    List.inj_on_of_nodup_map hledger ha hb (LedgerRow.number_eq_of_le hab hba)

include hstatements in
theorem statementRow_antisymm :
    ∀ a ∈ statements, ∀ b ∈ statements, a.le b = true → b.le a = true → a = b :=
  fun _ ha _ hb hab hba =>
    List.inj_on_of_nodup_map hstatements ha hb (StatementRow.number_eq_of_le hab hba)

include hledger in
theorem filter_sorted_ledger (k : MatchKey) :
    (ledger.mergeSort LedgerRow.le).filter (LedgerRow.key · == k)
      = ledgerGroup LedgerRow.key ledger k :=
  filter_mergeSort LedgerRow.le_trans LedgerRow.le_total (ledgerRow_antisymm hledger) _

include hstatements in
theorem filter_sorted_statements (k : MatchKey) :
    (statements.mergeSort StatementRow.le).filter (StatementRow.key · == k)
      = statementGroup StatementRow.key statements k :=
  filter_mergeSort StatementRow.le_trans StatementRow.le_total (statementRow_antisymm hstatements) _

include hstatements in
/-- A ledger row looks for its partner at its own place in the statement rows of its group. -/
theorem find?_ranked (k : MatchKey) (i : Nat) :
    (rank StatementRow.key (statements.mergeSort StatementRow.le)).find?
        (fun s => s.1.key == k && s.2 == i)
      = ((statementGroup StatementRow.key statements k)[i]?).map fun s => (s, i) := by
  rw [find?_rank, filter_sorted_statements hstatements]

include hledger hstatements in
theorem mem_matchRows : p ∈ matchRows ledger statements ↔ IsMatch ledger statements p := by
  unfold matchRows IsMatch MatchedAt
  simp only [List.mem_filterMap, Option.map_eq_some_iff, find?_ranked hstatements]
  constructor
  · rintro ⟨⟨l, i⟩, hl, _, ⟨s, hs, rfl⟩, rfl⟩
    rw [mem_rank, filter_sorted_ledger hledger] at hl
    exact ⟨l.key, i, l, s, hl, hs, rfl⟩
  · rintro ⟨k, i, l, s, hl, hs, rfl⟩
    obtain ⟨-, rfl⟩ := mem_ledgerGroup.1 (List.mem_of_getElem? hl)
    refine ⟨(l, i), ?_, (s, i), ⟨s, hs, rfl⟩, rfl⟩
    rw [mem_rank, filter_sorted_ledger hledger]
    exact hl

include hstatements in
theorem nodup_statementGroup (k : MatchKey) :
    (statementGroup StatementRow.key statements k).Nodup := by
  rw [statementGroup, (List.mergeSort_perm _ _).nodup_iff]
  exact (List.Nodup.of_map _ hstatements).filter _

/-- Two pairs that share no row. -/
def Pair.Apart (p q : Pair) : Prop := p.ledger ≠ q.ledger ∧ p.statement ≠ q.statement

include hledger hstatements in
/-- No row takes part in two of the pairs. -/
theorem pairwise_matchRows : (matchRows ledger statements).Pairwise Pair.Apart := by
  rw [matchRows]
  simp only [List.pairwise_filterMap, Option.map_eq_some_iff, find?_ranked hstatements]
  have hnumbers : (rank LedgerRow.key (ledger.mergeSort LedgerRow.le)).Pairwise
      fun a b => a.1.number ≠ b.1.number := by
    have hsorted : ((ledger.mergeSort LedgerRow.le).map LedgerRow.number).Nodup :=
      ((List.mergeSort_perm _ _).map _).nodup_iff.2 hledger
    rw [← map_fst_rankAfter LedgerRow.key (ledger.mergeSort LedgerRow.le) [],
      List.map_map] at hsorted
    exact List.pairwise_map.1 hsorted
  refine (hnumbers.and (pairwise_rankAfter _ _)).imp ?_
  rintro ⟨l, i⟩ ⟨l', j⟩ ⟨hne, hrank⟩ _ ⟨_, ⟨s, hs, rfl⟩, rfl⟩ _ ⟨_, ⟨s', hs', rfl⟩, rfl⟩
  refine ⟨hne, fun hnumber => ?_⟩
  -- one statement row would stand at two places of its group
  obtain ⟨hmem, hkey⟩ := mem_statementGroup.1 (List.mem_of_getElem? hs)
  obtain ⟨hmem', hkey'⟩ := mem_statementGroup.1 (List.mem_of_getElem? hs')
  have hsame : s = s' := List.inj_on_of_nodup_map hstatements hmem hmem' hnumber
  subst hsame
  have hkeys : l.key = l'.key := hkey.symm.trans hkey'
  have hi := (List.getElem?_eq_some_iff.1 hs).1
  dsimp only at hs hs'
  rw [← hkeys, ← hs] at hs'
  exact hrank hkeys ((List.getElem?_inj hi (nodup_statementGroup hstatements l.key)).1 hs'.symm)

include hledger in
/-- The pairs of a group differ in their ledger rows. -/
theorem nodup_zipWith_group (k : MatchKey) (ss : List StatementRow) :
    (List.zipWith pairOf (ledgerGroup LedgerRow.key ledger k) ss).Nodup := by
  have hgroup : ((ledgerGroup LedgerRow.key ledger k).map LedgerRow.number).Nodup := by
    rw [ledgerGroup, ((List.mergeSort_perm _ _).map _).nodup_iff]
    exact hledger.sublist (List.filter_sublist.map _)
  apply List.Nodup.of_map Pair.ledger
  rw [List.map_zipWith]
  refine List.Nodup.sublist ?_ hgroup
  clear hgroup
  generalize ledgerGroup LedgerRow.key ledger k = ls
  induction ls generalizing ss with
  | nil => simp
  | cons l ls ih =>
      cases ss with
      | nil => exact List.nil_sublist _
      | cons s ss => exact (ih ss).cons_cons _

include hledger in
theorem nodup_matchGroups :
    (matchGroups LedgerRow.key StatementRow.key ledger statements).Nodup := by
  rw [matchGroups]
  refine List.nodup_flatMap.2 ⟨fun k _ => nodup_zipWith_group hledger k _, ?_⟩
  refine (List.nodup_dedup _).imp ?_
  -- pairs of two groups join ledger rows of two keys
  intro k k' hne p hp hp'
  obtain ⟨i, hi⟩ := List.mem_iff_getElem?.1 hp
  obtain ⟨l, s, hl, -, rfl⟩ := List.getElem?_zipWith_eq_some.1 hi
  obtain ⟨j, hj⟩ := List.mem_iff_getElem?.1 hp'
  obtain ⟨l', s', hl', -, heq⟩ := List.getElem?_zipWith_eq_some.1 hj
  obtain ⟨hmem, hkey⟩ := mem_ledgerGroup.1 (List.mem_of_getElem? hl)
  obtain ⟨hmem', hkey'⟩ := mem_ledgerGroup.1 (List.mem_of_getElem? hl')
  have hnumber : l'.number = l.number := congrArg Pair.ledger heq
  have hsame : l' = l := List.inj_on_of_nodup_map hledger hmem' hmem hnumber
  exact hne (by rw [← hkey, ← hkey', hsame])

include hledger hstatements in
/-- Matching by ranks makes the pairs that come of going from group to group. -/
theorem matchRows_perm_matchGroups :
    (matchRows ledger statements).Perm
      (matchGroups LedgerRow.key StatementRow.key ledger statements) := by
  have hnodup : (matchRows ledger statements).Nodup :=
    (pairwise_matchRows hledger hstatements).imp fun hapart heq => hapart.1 (by rw [heq])
  refine (List.perm_ext_iff_of_nodup hnodup (nodup_matchGroups hledger)).2 fun p => ?_
  rw [mem_matchRows hledger hstatements, mem_matchGroups]

end

end LedgerMatch
