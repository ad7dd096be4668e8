import LedgerMatch.Proofs.Amount.Notation
import LedgerMatch.Proofs.Amount.Sign
import LedgerMatch.Proofs.Staging.MatchedAmounts
import LedgerMatch.Proofs.Staging.Maximum
import LedgerMatch.Proofs.Staging.Sums

/-!
# Missed matches

Matching from zero on leaves an entry and a line of one day and opposite directions both open if and
only if the numbers staged for their amounts differ. Amounts of one size can have different numbers
when one of them is written with zeros behind it, but not if both are whole or short.
-/

namespace LedgerMatch

-- Powers of whole numbers are the core ones, whatever else is imported.
attribute [local instance (2000)] instPowNat

-- The two large constants are never evaluated.
attribute [local irreducible] Binary64.one Binary64.limit

/-! ### Staged numbers of amounts of one size -/

namespace Amount

theorem mantissa_of_units {a : Amount} (h : a.units = 0) : a.mantissa = 0 := by
  by_contra hne
  have hpos : 0 < a.mantissa * 10 ^ (scaleLimit - a.scale) :=
    Nat.mul_pos (Nat.pos_of_ne_zero hne) (ten_pow_pos _)
  rw [← natAbs_units, h] at hpos
  exact absurd hpos (by decide)

/-- The sign of a zero does not matter to the number that is staged. -/
theorem staged_of_units {a : Amount} (h : 0 ≤ a.units) :
    a.staged = (realMagnitude a.toMagnitude).reread := by
  have hmagnitude : a.plainForm.toMagnitude = a.toMagnitude := rfl
  rw [← staged_plainForm, staged, real, hmagnitude, negative_plainForm h,
    if_neg Bool.false_ne_true]

theorem abs_staged (a : Amount) : a.staged.abs = (realMagnitude a.toMagnitude).reread := by
  have habs : (realMagnitude a.toMagnitude).abs = realMagnitude a.toMagnitude :=
    isUnsigned_realMagnitude _
  rw [staged, Binary64.abs_reread, real]
  split
  · rw [Binary64.abs_negate, habs]
  · rw [habs]

/-- Two amounts of one size that are rounded once are staged with one number. -/
theorem staged_eq_abs_staged {a b : Amount} (h : a.units = b.abs.units) (ha : a.RoundsOnce)
    (hb : b.RoundsOnce) : a.staged = b.staged.abs := by
  have habs : b.abs.units = (b.units.natAbs : Int) := by
    rw [natAbs_units]
    rfl
  have hsize : a.units.natAbs = b.units.natAbs := by omega
  rw [staged_of_units (by omega), abs_staged b, realMagnitude_congr ha hb hsize]

end Amount

namespace Staging

open Tables

/-! ### Rows that are left open -/

/-- Some area matched its rows from zero on and left open both an entry of one amount and a line of
the other, of one day and opposite directions. -/
def LeftOpen (a b : Amount) : Prop :=
  ∃ (s : Staging) (smallest largest : Amount) (buckets : Nat) (u : Tables) (i j : Nat)
      (e : LedgerEntry) (line : StatementLine),
    s.Reachable ∧ smallest.units = 0 ∧ buckets < wordLimit ∧
      (s.matchAmounts smallest largest buckets).2.tables = some u ∧
      .ofEntry i e ∈ u.openLedger ∧ .ofLine j line ∈ u.openStatements ∧
      e.time.date = line.date ∧ e.direction = line.direction.opposite ∧
      e.amount = a ∧ line.amount = b

variable {a b : Amount}

/-- Rows whose amounts have one number are not left open together. -/
theorem LeftOpen.staged_ne (h : LeftOpen a b) : a.staged ≠ b.staged.abs := by
  obtain ⟨⟨tables⟩, smallest, largest, buckets, u, i, j, e, line, hreach, hzero, hbuckets, hu, hl, hr,
    hdate, hdirection, rfl, rfl⟩ := h
  intro hnumbers
  cases tables with
  | none => cases hu
  | some t =>
      have hsound := hreach.sound t rfl
      obtain ⟨added, hperm, hmatch⟩ :=
        hsound.matchAmounts_eq smallest largest (Nat.le_of_lt hbuckets)
      have hu' : u = { t with pairs := t.pairs ++ added } := by
        have htables : some (t.matchAmounts smallest largest buckets).2 = some u := hu
        rw [hmatch] at htables
        exact (Option.some.inj htables).symm
      subst hu'
      have hle : smallest.real.le e.amount.staged = true := by
        rw [hnumbers]
        exact real_le_abs (Amount.mantissa_of_units hzero)
          (isFinite_iff.2 line.amount.staged_isFinite)
      refine hsound.key_ne_of_open_append hperm hl hr hle ?_
      show MatchKey.mk e.amount.staged e.time.date.text e.direction = _
      rw [hnumbers, hdate, hdirection]
      rfl

/-- The small area leaves its two rows open if the numbers of their amounts differ. -/
theorem leftOpen_of_ne (h : a.staged ≠ b.staged.abs) : LeftOpen a b := by
  have hsound := (apart_reachable a b).sound _ (apart_tables a b)
  obtain ⟨added, hperm, hmatch⟩ := hsound.matchAmounts_eq .zero .zero (by decide : 1 ≤ wordLimit)
  have hnone : (apartTables a b).pairsFrom Amount.zero.real = [] := by
    refine List.eq_nil_iff_forall_not_mem.2 fun p hp => ?_
    obtain ⟨k, -, i, l, r, hl, hr, -⟩ := hsound.mem_pairsFrom.1 hp
    obtain ⟨hlopen, hlkey⟩ := mem_ledgerGroup.1 (List.mem_of_getElem? hl)
    obtain ⟨hropen, hrkey⟩ := mem_statementGroup.1 (List.mem_of_getElem? hr)
    rw [openLedger_apartTables, List.mem_singleton] at hlopen
    rw [openStatements_apartTables, List.mem_singleton] at hropen
    rw [hlopen] at hlkey
    rw [hropen] at hrkey
    exact h (congrArg MatchKey.amount (hlkey.trans hrkey.symm))
  rw [hnone, List.perm_nil] at hperm
  have htables : ((apart a b).matchAmounts .zero .zero 1).2.tables = some (apartTables a b) := by
    rw [matchAmounts, update, apart_tables]
    dsimp only
    rw [hmatch, hperm]
    rfl
  refine ⟨apart a b, .zero, .zero, 1, apartTables a b, 1, 1, entryOf a, lineOf b,
    apart_reachable a b, Amount.zero_units, by decide, htables, ?_, ?_, rfl, rfl, rfl, rfl⟩
  · rw [openLedger_apartTables]
    exact List.mem_singleton_self _
  · rw [openStatements_apartTables]
    exact List.mem_singleton_self _

/-- Two rows can be left open together if and only if the numbers of their amounts differ, which those
of one size do not if both are whole or short. -/
theorem leftOpen_iff_staged_ne (a b : Amount) :
    (LeftOpen a b ↔ a.staged ≠ b.staged.abs) ∧
      (a.units = b.abs.units → a.RoundsOnce → b.RoundsOnce → ¬ LeftOpen a b) :=
  ⟨⟨LeftOpen.staged_ne, leftOpen_of_ne⟩,
    fun hunits ha hb hopen => hopen.staged_ne (Amount.staged_eq_abs_staged hunits ha hb)⟩

/-- An amount with one decimal. -/
def shortAmount : Amount := tenths 125 (by decide)

/-- The same size with two decimals and a sign. -/
def shortSize : Amount := ⟨⟨1250, 2, by decide, by decide⟩, true⟩

theorem short_not_leftOpen :
    shortAmount.units = shortSize.abs.units ∧ shortAmount.RoundsOnce ∧ shortSize.RoundsOnce ∧
      ¬ LeftOpen shortAmount shortSize := by
  have hunits : shortAmount.units = shortSize.abs.units := by decide
  have ha : shortAmount.RoundsOnce := by decide
  have hb : shortSize.RoundsOnce := by decide
  exact ⟨hunits, ha, hb, (leftOpen_iff_staged_ne shortAmount shortSize).2 hunits ha hb⟩

/-- An amount with one decimal whose number changes when zeros are written behind it. -/
def terseAmount : Amount := tenths 322 (by decide)

/-- The same size with fourteen decimals and a sign. -/
def paddedSize : Amount := ⟨⟨3220000000000000, 14, by decide, by decide⟩, true⟩

/-- Amounts of one size can be left open together. -/
theorem equal_sizes_left_open :
    ¬ ∀ a b : Amount, a.units = b.abs.units → ¬ LeftOpen a b := by
  intro hnever
  have hnumbers : terseAmount.staged ≠ paddedSize.staged.abs := by decide +kernel
  exact hnever terseAmount paddedSize (by decide) (leftOpen_of_ne hnumbers)

end Staging

end LedgerMatch
