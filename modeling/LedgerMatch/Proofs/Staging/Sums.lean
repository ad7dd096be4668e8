import LedgerMatch.Proofs.Amount.Sum
import LedgerMatch.Proofs.Staging.Records

/-!
# Sums of ledger amounts

The summary adds the amount of each ledger row in scope to the sum of all rows and to that of the
matched or of the open ones. The sums are exact as long as an amount can hold each of the totals on
the way, as it can if amounts have few decimals and are not too large together. Otherwise a sum
loses decimals, without a failure: a large amount swallows the decimals of those that follow it. A
sum that is given is off by at most half of a whole for each row.
-/

namespace LedgerMatch

open Amount (Holdable AddsUp FitTogether)

-- Powers of whole numbers are the core ones, whatever else is imported.
attribute [local instance (2000)] instPowNat

/-- The units of a staged amount. -/
def LedgerRow.units (r : LedgerRow) : Int :=
  match stagedAmount r.amount with
  | .ok a => a.units
  | .error _ => 0

theorem LedgerRow.units_of_staged {r : LedgerRow} {a : Amount} (h : stagedAmount r.amount = .ok a) :
    r.units = a.units := by
  rw [units, h]

@[simp] theorem LedgerRow.units_ofEntry (number : Nat) (e : LedgerEntry) :
    (LedgerRow.ofEntry number e).units = e.amount.units := by
  have hread : stagedAmount (LedgerRow.ofEntry number e).amount = .ok e.amount.plainForm :=
    Amount.stagedAmount_text e.amount
  rw [units_of_staged hread, Amount.units_plainForm]

/-- The sums of a summary: of all ledger rows, of the matched and of the open ones. -/
inductive SumPart where
  | ledger
  | matched
  | openLedger

/-- Whether a row counts for a sum, given whether it has a pair. -/
def SumPart.includes : SumPart → Bool → Bool
  | ledger, _ => true
  | matched, joined => joined
  | openLedger, joined => !joined

/-- The units of the rows that count for a sum. -/
def SumPart.units (part : SumPart) (rows : List (LedgerRow × Bool)) : List Int :=
  (rows.filter fun r => part.includes r.2).map fun r => r.1.units

theorem SumPart.units_cons (part : SumPart) (r : LedgerRow) (joined : Bool)
    (rest : List (LedgerRow × Bool)) :
    part.units ((r, joined) :: rest) =
      if part.includes joined then r.units :: part.units rest else part.units rest := by
  rw [units, List.filter_cons]
  split <;> rfl

theorem SumPart.units_first (part : SumPart) (r : LedgerRow × Bool)
    (rest : List (LedgerRow × Bool)) : part.units (r :: rest) = part.units [r] ++ part.units rest := by
  rw [units, ← List.singleton_append, List.filter_append, List.map_append]
  rfl

/-- What a row adds to a sum. -/
def SumPart.share (part : SumPart) (r : LedgerRow) (joined : Bool) : Int :=
  if part.includes joined then r.units else 0

theorem SumPart.sum_units_cons (part : SumPart) (r : LedgerRow) (joined : Bool)
    (rest : List (LedgerRow × Bool)) :
    (part.units ((r, joined) :: rest)).sum = part.share r joined + (part.units rest).sum := by
  rw [units_cons, share]
  split
  · rw [List.sum_cons]
  · rw [Int.zero_add]

theorem SumPart.sum_units_singleton (part : SumPart) (r : LedgerRow) (joined : Bool) :
    (part.units [(r, joined)]).sum = part.share r joined :=
  (part.sum_units_cons r joined []).trans (Int.add_zero _)

theorem SumPart.addsUp_cons {part : SumPart} {total : Int} {r : LedgerRow} {joined : Bool}
    {rest : List (LedgerRow × Bool)} :
    AddsUp total (part.units ((r, joined) :: rest)) ↔
      (part.includes joined = true → Holdable (total + r.units)) ∧
        AddsUp (total + part.share r joined) (part.units rest) := by
  rw [units_cons, share]
  cases part.includes joined with
  | true => simp [AddsUp]
  | false => simp

namespace Tables

def Sums.part (sums : Sums) : SumPart → Amount
  | .ledger => sums.ledger
  | .matched => sums.matched
  | .openLedger => sums.openLedger

theorem Sums.part_zero (part : SumPart) : (({} : Sums).part part).units = 0 := by
  cases part <;> rfl

/-! ### One row -/

theorem addTerm_eq_ok {sum term total : Amount} :
    addTerm sum term = .ok total ↔ sum.add? term = some total := by
  rw [addTerm]
  cases sum.add? term <;> simp

theorem addTerm_eq_error {sum term : Amount} {failure : Failure}
    (h : addTerm sum term = .error failure) : sum.add? term = none ∧ failure = .sum term := by
  rw [addTerm] at h
  split at h
  · cases h
  · next hnone => exact ⟨hnone, (Except.error.inj h).symm⟩

section

variable {sums sums' : Sums} {r : LedgerRow} {joined : Bool} {a : Amount}
  (hread : stagedAmount r.amount = .ok a)

include hread

/-- A row is added to the sums that it counts for, and the others stay. -/
theorem Sums.add_eq_ok : sums.add (r.amount, joined) = .ok sums' ↔
    ∀ part : SumPart, if part.includes joined then (sums.part part).add? a = some (sums'.part part)
      else sums'.part part = sums.part part := by
  obtain ⟨ledger, matched, openLedger⟩ := sums
  obtain ⟨ledger', matched', openLedger'⟩ := sums'
  have hparts : ∀ P : SumPart → Prop, (∀ part, P part) ↔ P .ledger ∧ P .matched ∧ P .openLedger :=
    fun P => ⟨fun h => ⟨h _, h _, h _⟩, fun ⟨hl, hm, ho⟩ part => by cases part <;> assumption⟩
  rw [hparts, Sums.add]
  cases joined with
  | true =>
      simp only [SumPart.includes, Sums.part, if_true, Bool.not_true, Bool.false_eq_true, if_false,
        ← addTerm_eq_ok]
      constructor
      · intro h
        obtain ⟨b, hb, h⟩ := bind_eq_ok.1 h
        cases hread.symm.trans hb
        obtain ⟨l, hl, h⟩ := bind_eq_ok.1 h
        obtain ⟨m, hm, h⟩ := bind_eq_ok.1 h
        cases h
        exact ⟨hl, hm, rfl⟩
      · rintro ⟨hl, hm, rfl⟩
        exact bind_eq_ok.2 ⟨a, hread, bind_eq_ok.2 ⟨_, hl, bind_eq_ok.2 ⟨_, hm, rfl⟩⟩⟩
  | false =>
      simp only [SumPart.includes, Sums.part, if_true, Bool.not_false, Bool.false_eq_true, if_false,
        ← addTerm_eq_ok]
      constructor
      · intro h
        obtain ⟨b, hb, h⟩ := bind_eq_ok.1 h
        cases hread.symm.trans hb
        obtain ⟨l, hl, h⟩ := bind_eq_ok.1 h
        obtain ⟨o, ho, h⟩ := bind_eq_ok.1 h
        cases h
        exact ⟨hl, rfl, ho⟩
      · rintro ⟨hl, rfl, ho⟩
        exact bind_eq_ok.2 ⟨a, hread, bind_eq_ok.2 ⟨_, hl, bind_eq_ok.2 ⟨_, ho, rfl⟩⟩⟩

/-- A row is refused by a sum that it counts for. -/
theorem Sums.add_eq_error {failure : Failure} (h : sums.add (r.amount, joined) = .error failure) :
    failure = .sum a ∧
      ∃ part : SumPart, part.includes joined = true ∧ (sums.part part).add? a = none := by
  rw [Sums.add] at h
  rcases bind_eq_error.1 h with hfails | ⟨b, hb, h⟩
  · cases hread.symm.trans hfails
  · cases hread.symm.trans hb
    rcases bind_eq_error.1 h with hledger | ⟨ledger, -, h⟩
    · obtain ⟨hnone, hfailure⟩ := addTerm_eq_error hledger
      exact ⟨hfailure, .ledger, rfl, hnone⟩
    · cases joined with
      | true =>
          rcases bind_eq_error.1 h with hmatched | ⟨matched, -, h⟩
          · obtain ⟨hnone, hfailure⟩ := addTerm_eq_error hmatched
            exact ⟨hfailure, .matched, rfl, hnone⟩
          · cases h
      | false =>
          rcases bind_eq_error.1 h with hopen | ⟨openLedger, -, h⟩
          · obtain ⟨hnone, hfailure⟩ := addTerm_eq_error hopen
            exact ⟨hfailure, .openLedger, rfl, hnone⟩
          · cases h

/-- A row is added exactly if the sums that it counts for can be held. -/
theorem Sums.exists_add (hhold : ∀ part : SumPart, part.includes joined = true →
      Holdable ((sums.part part).units + r.units)) :
    ∃ sums', sums.add (r.amount, joined) = .ok sums' ∧ ∀ part : SumPart,
      (sums'.part part).units = (sums.part part).units + part.share r joined := by
  have hparts : ∀ part : SumPart, ∃ c : Amount,
      (if part.includes joined then (sums.part part).add? a = some c else c = sums.part part) ∧
        c.units = (sums.part part).units + part.share r joined := by
    intro part
    rw [SumPart.share]
    split
    · next hincludes =>
        have hsum := hhold part hincludes
        rw [LedgerRow.units_of_staged hread] at hsum ⊢
        exact Amount.exists_add?_of_holdable hsum
    · exact ⟨_, rfl, (Int.add_zero _).symm⟩
  choose total htotal hunits using hparts
  have hpart : ∀ part, (Sums.mk (total .ledger) (total .matched) (total .openLedger)).part part
      = total part := fun part => by cases part <;> rfl
  refine ⟨⟨total .ledger, total .matched, total .openLedger⟩, (Sums.add_eq_ok hread).2 ?_, ?_⟩
  · intro part
    rw [hpart]
    exact htotal part
  · intro part
    rw [hpart]
    exact hunits part

/-- A row that is added changes each sum by what it adds to it, or by nearly that much. -/
theorem Sums.add_near (hadd : sums.add (r.amount, joined) = .ok sums') (part : SumPart) :
    2 * ((sums'.part part).units - ((sums.part part).units + part.share r joined)).natAbs
      ≤ (part.units [(r, joined)]).length * 10 ^ scaleLimit := by
  have hpart := (Sums.add_eq_ok hread).1 hadd part
  rw [SumPart.share, SumPart.units_cons]
  split
  · next hincludes =>
      rw [if_pos hincludes] at hpart
      have hlength : (r.units :: part.units []).length = 1 := rfl
      rw [hlength, Nat.one_mul, LedgerRow.units_of_staged hread]
      exact Amount.add?_near hpart
  · next hexcludes =>
      rw [if_neg hexcludes] at hpart
      rw [hpart, Int.add_zero, Int.sub_self]
      exact Nat.zero_le _

end

/-! ### All rows -/

/-- The rows as they are added up. -/
def addRows (sums : Sums) (rows : List (LedgerRow × Bool)) : Except Failure Sums :=
  (rows.map fun r => (r.1.amount, r.2)).foldlM Sums.add sums

theorem addRows_cons (sums : Sums) (r : LedgerRow) (joined : Bool) (rest : List (LedgerRow × Bool)) :
    addRows sums ((r, joined) :: rest) = sums.add (r.amount, joined) >>= (addRows · rest) := by
  rw [addRows, List.map_cons, List.foldlM_cons]
  rfl

section

variable {rows : List (LedgerRow × Bool)}
  (hread : ∀ r ∈ rows, ∃ a, stagedAmount r.1.amount = .ok a)

include hread

/-- Rows are added up exactly, all the way, if and only if each sum can be held after each row. -/
theorem addRows_exact_iff {sums : Sums} :
    (∀ front, front <+: rows → ∃ sums', addRows sums front = .ok sums' ∧ ∀ part : SumPart,
        (sums'.part part).units = (sums.part part).units + (part.units front).sum) ↔
      ∀ part : SumPart, AddsUp (sums.part part).units (part.units rows) := by
  induction rows generalizing sums with
  | nil =>
      refine ⟨fun _ _ => trivial, fun _ front hfront => ?_⟩
      rw [List.prefix_nil.1 hfront]
      exact ⟨sums, rfl, fun part => (Int.add_zero _).symm⟩
  | cons row rest ih =>
      obtain ⟨r, joined⟩ := row
      obtain ⟨a, ha⟩ : ∃ a, stagedAmount r.amount = .ok a :=
        hread (r, joined) List.mem_cons_self
      replace ih := @ih fun r hr => hread r (List.mem_cons_of_mem _ hr)
      simp only [SumPart.addsUp_cons, forall_and]
      constructor
      · intro hexact
        obtain ⟨next, hfirst, htotals⟩ := hexact [(r, joined)] (List.prefix_append _ rest)
        rw [addRows_cons] at hfirst
        obtain ⟨added, hadd, hdone⟩ := bind_eq_ok.1 hfirst
        cases (Except.ok.inj hdone : added = next)
        have hunits : ∀ part : SumPart,
            (next.part part).units = (sums.part part).units + part.share r joined := by
          intro part
          rw [htotals, SumPart.sum_units_singleton]
        simp only [← hunits]
        refine ⟨fun part hincludes => ?_, ih.1 fun front hfront => ?_⟩
        · have hpart := hunits part
          rw [SumPart.share, if_pos hincludes] at hpart
          rw [← hpart]
          exact Amount.holdable_units _
        · obtain ⟨sums', htotal, hall⟩ :=
            hexact ((r, joined) :: front) (List.cons_prefix_cons.2 ⟨rfl, hfront⟩)
          rw [addRows_cons, hadd] at htotal
          refine ⟨sums', htotal, fun part => ?_⟩
          rw [hall, hunits, SumPart.sum_units_cons, Int.add_assoc]
      · rintro ⟨hhold, hlater⟩ front hfront
        obtain ⟨next, hadd, hunits⟩ := Sums.exists_add ha hhold
        simp only [← hunits] at hlater
        rcases List.prefix_cons_iff.1 hfront with rfl | ⟨behind, rfl, hbehind⟩
        · exact ⟨sums, rfl, fun part => (Int.add_zero _).symm⟩
        · obtain ⟨sums', htotal, hall⟩ := ih.2 hlater behind hbehind
          refine ⟨sums', ?_, fun part => ?_⟩
          · rw [addRows_cons, hadd]
            exact htotal
          · rw [hall, hunits, SumPart.sum_units_cons, Int.add_assoc]

/-- Rows that are added up give nearly what they hold. -/
theorem addRows_near {sums sums' : Sums} (h : addRows sums rows = .ok sums') (part : SumPart) :
    2 * ((sums'.part part).units - ((sums.part part).units + (part.units rows).sum)).natAbs
      ≤ (part.units rows).length * 10 ^ scaleLimit := by
  induction rows generalizing sums with
  | nil =>
      cases h
      simp [SumPart.units]
  | cons row rest ih =>
      obtain ⟨r, joined⟩ := row
      obtain ⟨a, ha⟩ : ∃ a, stagedAmount r.amount = .ok a :=
        hread (r, joined) List.mem_cons_self
      rw [addRows_cons] at h
      obtain ⟨next, hnext, hrest⟩ := bind_eq_ok.1 h
      have hsums := ih (fun r hr => hread r (List.mem_cons_of_mem _ hr)) hrest
      have hstep := Sums.add_near ha hnext part
      rw [part.units_first (r, joined) rest, List.sum_append, List.length_append,
        SumPart.sum_units_singleton, Nat.add_mul]
      omega

/-- Rows are refused only if a total on the way is as large as the largest amount, but for what was
rounded before. -/
theorem addRows_eq_error {sums : Sums} {failure : Failure} (h : addRows sums rows = .error failure) :
    (∃ term, failure = .sum term) ∧ ∃ (part : SumPart) (front : List Int),
      front <+: part.units rows ∧ 2 * mantissaLimit * 10 ^ scaleLimit
        ≤ 2 * ((sums.part part).units + front.sum).natAbs + front.length * 10 ^ scaleLimit := by
  induction rows generalizing sums with
  | nil => cases h
  | cons row rest ih =>
      obtain ⟨r, joined⟩ := row
      obtain ⟨a, ha⟩ : ∃ a, stagedAmount r.amount = .ok a :=
        hread (r, joined) List.mem_cons_self
      rw [addRows_cons] at h
      rcases bind_eq_error.1 h with hstep | ⟨next, hnext, hrest⟩
      · obtain ⟨hfailure, part, hincludes, hnone⟩ := Sums.add_eq_error ha hstep
        refine ⟨⟨a, hfailure⟩, part, [r.units], ?_, ?_⟩
        · rw [SumPart.units_cons, if_pos hincludes]
          exact List.prefix_append [r.units] (part.units rest)
        · have hlarge := Amount.le_of_add?_eq_none hnone
          rw [← LedgerRow.units_of_staged ha] at hlarge
          simpa using hlarge
      · obtain ⟨hterm, part, front, hfront, hlarge⟩ :=
          ih (fun r hr => hread r (List.mem_cons_of_mem _ hr)) hrest
        have hnear := Sums.add_near ha hnext part
        refine ⟨hterm, part, part.units [(r, joined)] ++ front, ?_, ?_⟩
        · rw [part.units_first (r, joined) rest]
          exact (List.prefix_append_right_inj _).2 hfront
        · rw [List.sum_append, List.length_append, SumPart.sum_units_singleton, Nat.add_mul]
          omega

end

/-! ### The summary -/

/-- The ledger rows in scope with a pair. -/
def matchedLedger (t : Tables) : List LedgerRow :=
  t.scopedLedger.filter fun r => t.hasLedgerPair r.number

end Tables

/-- The ledger rows that count for a sum. -/
def SumPart.rows (t : Tables) : SumPart → List LedgerRow
  | ledger => t.scopedLedger
  | matched => t.matchedLedger
  | openLedger => t.openLedger

def Summary.part (summary : Summary) : SumPart → Amount
  | .ledger => summary.ledgerSum
  | .matched => summary.matchedSum
  | .openLedger => summary.openLedgerSum

namespace Tables

variable {t : Tables}

theorem rows_sublist (t : Tables) (part : SumPart) : (part.rows t).Sublist t.scopedLedger := by
  cases part with
  | ledger => exact List.Sublist.refl _
  | matched => exact List.filter_sublist
  | openLedger => exact List.filter_sublist

/-- Matched and open rows are together all rows in scope. -/
theorem sum_matched_add_open (t : Tables) :
    ((SumPart.matched.rows t).map LedgerRow.units).sum
        + ((SumPart.openLedger.rows t).map LedgerRow.units).sum
      = ((SumPart.ledger.rows t).map LedgerRow.units).sum := by
  rw [← List.sum_append, ← List.map_append]
  exact ((List.filter_append_perm (fun r => t.hasLedgerPair r.number) t.scopedLedger).map
    LedgerRow.units).sum_eq

section

variable (h : t.Sound)

include h

/-- The amounts of all rows can be read back. -/
theorem Sound.exists_amount {r : LedgerRow × Bool} (hr : r ∈ t.pairedLedger) :
    ∃ a, stagedAmount r.1.amount = .ok a := by
  rw [h.pairedLedger_eq] at hr
  obtain ⟨row, hrow, rfl⟩ := List.mem_map.1 hr
  obtain ⟨-, e, hentry⟩ := h.ledger_rows row (List.mem_filter.1 hrow).1
  have hamount : row.amount = e.amount.text := by rw [hentry]; rfl
  exact ⟨e.amount.plainForm, by rw [hamount, Amount.stagedAmount_text]⟩

theorem Sound.units_pairedLedger (part : SumPart) :
    part.units t.pairedLedger = (part.rows t).map LedgerRow.units := by
  rw [h.pairedLedger_eq, SumPart.units, List.filter_map, List.map_map, Function.comp_def,
    Function.comp_def]
  dsimp only
  congr 1
  cases part with
  | ledger => exact List.filter_eq_self.2 fun _ _ => rfl
  | matched => rfl
  | openLedger => rfl

/-- The rows of the tables are added up exactly, all the way, if and only if every total on the way
can be held. -/
theorem Sound.addRows_exact_iff :
    (∀ front, front <+: t.pairedLedger → ∃ sums, addRows {} front = .ok sums ∧
        ∀ part : SumPart, (sums.part part).units = (part.units front).sum) ↔
      ∀ part : SumPart, AddsUp 0 ((part.rows t).map LedgerRow.units) := by
  have hrows := @Tables.addRows_exact_iff t.pairedLedger (fun _ => h.exists_amount) {}
  simpa only [Sums.part_zero, Int.zero_add, h.units_pairedLedger] using hrows

/-- If every total on the way can be held, there is a summary, and its sums are exact. -/
theorem Sound.exists_exact_summary
    (hadds : ∀ part : SumPart, AddsUp 0 ((part.rows t).map LedgerRow.units)) :
    ∃ summary, t.summary = .ok summary ∧ ∀ part : SumPart,
      (summary.part part).units = ((part.rows t).map LedgerRow.units).sum := by
  obtain ⟨sums, hadd, hunits⟩ := h.addRows_exact_iff.2 hadds t.pairedLedger (List.prefix_refl _)
  refine ⟨_, bind_eq_ok.2 ⟨sums, hadd, rfl⟩, fun part => ?_⟩
  rw [← h.units_pairedLedger, ← hunits]
  cases part <;> rfl

/-- The sums of a summary are off by at most half of a whole for each of their rows. -/
theorem Sound.summary_near {summary : Summary} (hsummary : t.summary = .ok summary)
    (part : SumPart) :
    2 * ((summary.part part).units - ((part.rows t).map LedgerRow.units).sum).natAbs
      ≤ (part.rows t).length * 10 ^ scaleLimit := by
  obtain ⟨sums, hadd, hrest⟩ := bind_eq_ok.1 hsummary
  cases hrest
  have hnear := addRows_near (fun _ => h.exists_amount) hadd part
  rw [Sums.part_zero, Int.zero_add, h.units_pairedLedger, List.length_map] at hnear
  cases part <;> exact hnear

/-- A summary is refused only if a total on the way is about as large as the largest amount. -/
theorem Sound.summary_eq_error {failure : Failure} (hsummary : t.summary = .error failure) :
    (∃ term, failure = .sum term) ∧ ∃ (part : SumPart) (front : List Int),
      front <+: (part.rows t).map LedgerRow.units ∧ 2 * mantissaLimit * 10 ^ scaleLimit
        ≤ 2 * front.sum.natAbs + front.length * 10 ^ scaleLimit := by
  rcases bind_eq_error.1 hsummary with hadd | ⟨sums, -, hrest⟩
  · obtain ⟨hterm, part, front, hfront, hlarge⟩ :=
      addRows_eq_error (fun _ => h.exists_amount) hadd
    rw [Sums.part_zero, Int.zero_add] at hlarge
    rw [h.units_pairedLedger] at hfront
    exact ⟨hterm, part, front, hfront, hlarge⟩
  · cases hrest

end

/-- Amounts with few decimals that are not too large together add up to exact sums. -/
theorem addsUp_of_fitTogether {places : Nat}
    (hfit : FitTogether places (t.scopedLedger.map LedgerRow.units)) (part : SumPart) :
    AddsUp 0 ((part.rows t).map LedgerRow.units) :=
  (hfit.sublist ((rows_sublist t part).map _)).addsUp

theorem map_units_entryRows (count : Nat) (entries : List LedgerEntry) :
    (entryRows count entries).map LedgerRow.units = entries.map fun e => e.amount.units := by
  conv_rhs => rw [← List.zipIdx_map_fst 0 entries, List.map_map]
  rw [entryRows, List.map_map]
  simp only [Function.comp_def, LedgerRow.units_ofEntry]

/-- Tables have a summary if the amounts of their entries fit together. -/
theorem Holds.exists_summary_of_fitTogether {w : Window} {entries : List LedgerEntry}
    {lines : List StatementLine} (h : t.Holds w entries lines) {places : Nat}
    (hfit : FitTogether places (entries.map fun e => e.amount.units)) :
    ∃ summary, t.summary = .ok summary := by
  rw [← map_units_entryRows 0, ← h.ledger] at hfit
  obtain ⟨summary, hsummary, -⟩ := h.sound.exists_exact_summary
    (addsUp_of_fitTogether (hfit.sublist (List.filter_sublist.map _)))
  exact ⟨summary, hsummary⟩

end Tables

namespace Staging

/-- In every reachable state the rows of a summary are added up exactly, all the way, if and only if
every total on the way can be held. Its sums are exact then, and those of the matched and of the open
rows make up that of all rows. Whatever the amounts are, a sum is off by at most half of a whole for
each row, and it is refused only if a total on the way is about as large as the largest amount. -/
theorem Reachable.sums_exact {s : Staging} {t : Tables} (h : s.Reachable) (ht : s.tables = some t) :
    ((∀ front, front <+: t.pairedLedger → ∃ sums, Tables.addRows {} front = .ok sums ∧
        ∀ part : SumPart, (sums.part part).units = (part.units front).sum) ↔
      ∀ part : SumPart, AddsUp 0 ((part.rows t).map LedgerRow.units)) ∧
    ((∀ part : SumPart, AddsUp 0 ((part.rows t).map LedgerRow.units)) →
      ∃ summary, s.summary = .ok summary ∧
        (∀ part : SumPart,
          (summary.part part).units = ((part.rows t).map LedgerRow.units).sum) ∧
        summary.matchedSum.units + summary.openLedgerSum.units = summary.ledgerSum.units) ∧
    (∀ summary, s.summary = .ok summary → ∀ part : SumPart,
      2 * ((summary.part part).units - ((part.rows t).map LedgerRow.units).sum).natAbs
        ≤ (part.rows t).length * 10 ^ scaleLimit) ∧
    ∀ failure, s.summary = .error failure →
      (∃ term, failure = .sum term) ∧ ∃ (part : SumPart) (front : List Int),
        front <+: (part.rows t).map LedgerRow.units ∧ 2 * mantissaLimit * 10 ^ scaleLimit
          ≤ 2 * front.sum.natAbs + front.length * 10 ^ scaleLimit := by
  have hsound := h.sound t ht
  have hquery : s.summary = t.summary := by rw [summary, query, ht]
  rw [hquery]
  refine ⟨hsound.addRows_exact_iff, ?_, fun summary hsummary => hsound.summary_near hsummary,
    fun failure hfails => hsound.summary_eq_error hfails⟩
  intro hadds
  obtain ⟨summary, hsummary, hunits⟩ := hsound.exists_exact_summary hadds
  refine ⟨summary, hsummary, hunits, ?_⟩
  exact (congrArg₂ (· + ·) (hunits .matched) (hunits .openLedger)).trans
    ((Tables.sum_matched_add_open t).trans (hunits .ledger).symm)

theorem leftovers_sums_exact :
    leftovers.Reachable ∧ leftovers.tables = some leftoverTables ∧
      (∀ part : SumPart, AddsUp 0 ((part.rows leftoverTables).map LedgerRow.units)) ∧
      ∃ summary, leftovers.summary = .ok summary ∧
        (∀ part : SumPart,
          (summary.part part).units = ((part.rows leftoverTables).map LedgerRow.units).sum) ∧
        summary.matchedSum.units + summary.openLedgerSum.units = summary.ledgerSum.units := by
  have hreach : leftovers.Reachable := .serve _ (.serve _ (.serve _ twins_reachable))
  have hfit : FitTogether 8 (leftoverTables.scopedLedger.map LedgerRow.units) :=
    ⟨by decide, by decide +kernel, by decide +kernel⟩
  have hadds := Tables.addsUp_of_fitTogether hfit
  exact ⟨hreach, leftovers_tables, hadds, (hreach.sums_exact leftovers_tables).2.1 hadds⟩

/-- The largest amount. -/
def largestAmount : Amount := ⟨⟨mantissaLimit - 1, 0, by decide, Magnitude.zero.scale_le⟩, false⟩

/-- So many tenths. -/
def tenths (n : Nat) (h : n < mantissaLimit) : Amount := ⟨⟨n, 1, h, by decide⟩, false⟩

/-- Requests for an area with the largest amount and a small one behind it. -/
def crowdedRequests : List StagingRequest :=
  [.prepare twinWindow, .importEntries [{ twinEntry with amount := largestAmount },
    { twinEntry with amount := tenths 4 (by decide) }] 1]

/-- Sums of a summary need not be exact. -/
theorem sums_not_exact :
    ¬ ∀ (requests : List StagingRequest) (t : Tables) (summary : Summary),
      (empty.serveAll requests).tables = some t → (empty.serveAll requests).summary = .ok summary →
        summary.ledgerSum.units = (t.scopedLedger.map LedgerRow.units).sum := by
  intro hclaim
  have hsum : (empty.serveAll crowdedRequests).summary.map (fun r => r.ledgerSum.units)
      = .ok largestAmount.units := by decide +kernel
  have htotal : (empty.serveAll crowdedRequests).tables.map
      (fun t => (t.scopedLedger.map LedgerRow.units).sum)
        = some (largestAmount.units + 4 * 10 ^ 27) := by decide +kernel
  obtain ⟨t, htables, hunits⟩ := Option.map_eq_some_iff.1 htotal
  cases hsummary : (empty.serveAll crowdedRequests).summary with
  | error failure =>
      rw [hsummary] at hsum
      cases hsum
  | ok summary =>
      rw [hsummary] at hsum
      have hexact := hclaim crowdedRequests t summary htables hsummary
      have hrounded : summary.ledgerSum.units = largestAmount.units := Except.ok.inj hsum
      rw [hunits, hrounded] at hexact
      omega

end Staging

end LedgerMatch
