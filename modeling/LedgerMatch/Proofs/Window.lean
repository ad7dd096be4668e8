import LedgerMatch.Proofs.Calendar.Order
import LedgerMatch.Proofs.Text.Letter
import LedgerMatch.Staging.Row

/-!
# Windows and scopes

Intake keeps records by comparing dates, and the staging area takes rows in by comparing texts of
dates. Banks are compared alike by both. In the years 0 to 9999 texts of dates stand in the order of
the dates, so that both agree there on every record, whatever year the record is in.
-/

namespace LedgerMatch

namespace StagingScope

/-- An entry is in scope if the row that it is staged as is. -/
def hasEntry (scope : StagingScope) (e : LedgerEntry) : Bool := scope.hasDate e.time.date.text

/-- A line is in scope if the row that it is staged as is. -/
def hasLine (scope : StagingScope) (l : StatementLine) : Bool :=
  scope.hasDate l.date.text && scope.hasBank l.bank

end StagingScope

namespace Window

variable {w : Window}

/-! ### Days -/

/-- A window contains the days from its first to its last, but never the last of the calendar. -/
theorem containsTime_iff {t : Timestamp} :
    w.containsTime t = true ↔ w.first ≤ t.date ∧ t.date ≤ w.last ∧ t.date.next? ≠ none := by
  rw [containsTime, decide_eq_true_iff, Timestamp.midnight_le, finish, Timestamp.lt_midnight]
  refine and_congr_right fun _ => ?_
  cases hnext : w.last.next? with
  | some next =>
      have hlt := Date.lt_next hnext
      constructor
      · intro hbefore
        have hle := Date.le_of_lt_next hnext hbefore
        refine ⟨hle, fun hnone => ?_⟩
        exact Int.not_lt.2 (Date.le_of_next_eq_none hnone next) hbefore
      · rintro ⟨hle, -⟩
        exact Int.lt_of_le_of_lt hle hlt
  | none =>
      constructor
      · intro hbefore
        refine ⟨Int.le_of_lt hbefore, fun hnone => ?_⟩
        exact Int.not_lt.2 (Date.le_of_next_eq_none hnone w.last) hbefore
      · rintro ⟨hle, hsome⟩
        rcases Int.lt_or_eq_of_le hle with hlt | heq
        · exact hlt
        · rw [Date.key_injective heq] at hsome
          exact (hsome hnext).elim

theorem containsDate_iff {d : Date} :
    w.containsDate d = true ↔ w.first ≤ d ∧ d ≤ w.last ∧ d.next? ≠ none :=
  containsTime_iff

/-- A window in the years 0 to 9999. -/
structure HasPlainYears (w : Window) : Prop where
  first : w.first.HasPlainYear
  last : w.last.HasPlainYear

/-- The days of a window in the years 0 to 9999 are those whose texts lie between the texts of its
first and its last day. -/
theorem HasPlainYears.hasDate_eq (hw : w.HasPlainYears) (d : Date) :
    (StagingScope.ofWindow w).hasDate d.text = w.containsDate d := by
  rw [Bool.eq_iff_iff, containsDate_iff, StagingScope.hasDate, decide_eq_true_iff]
  constructor
  · rintro ⟨hfirst, hlast⟩
    have hd := Date.plainYear_of_text_le hw.first hfirst
    exact ⟨(Date.text_le_iff hw.first hd).1 hfirst, (Date.text_le_iff hd hw.last).1 hlast,
      hd.next?_ne_none⟩
  · rintro ⟨hfirst, hlast, -⟩
    have hd := Date.plainYear_of_between hw.first hw.last hfirst hlast
    exact ⟨(Date.text_le_iff hw.first hd).2 hfirst, (Date.text_le_iff hd hw.last).2 hlast⟩

/-! ### Banks -/

/-- Banks are taken in alike, in any letter case. -/
theorem hasBank_eq (w : Window) (bank : String) :
    (StagingScope.ofWindow w).hasBank bank = w.acceptsBank bank := by
  rw [StagingScope.hasBank, acceptsBank]
  simp only [Text.sameLetters_eq]
  rfl

/-! ### Records -/

/-- Intake and the staging area agree on every entry. -/
theorem HasPlainYears.hasEntry_eq (hw : w.HasPlainYears) :
    (StagingScope.ofWindow w).hasEntry = w.keepsEntry := by
  funext e
  rw [StagingScope.hasEntry, hw.hasDate_eq, keepsEntry, Bool.eq_iff_iff, containsDate_iff,
    containsTime_iff]

/-- Intake and the staging area agree on every line. -/
theorem HasPlainYears.hasLine_eq (hw : w.HasPlainYears) :
    (StagingScope.ofWindow w).hasLine = w.keepsLine := by
  funext l
  rw [StagingScope.hasLine, keepsLine, hasBank_eq, hw.hasDate_eq]

/-! ### Both ends -/

theorem make_eq_ok {first last : Date} {banks : List String} (h : make first last banks = .ok w) :
    first ≤ last ∧ w = ⟨first, last, banks⟩ := by
  rw [make] at h
  split at h
  · cases h
  · next hle =>
      cases h
      exact ⟨Int.not_lt.1 hle, rfl⟩

/-- The last day of the calendar is the only one that can be missing between both ends of a window. -/
theorem contains_between_iff {α : Type} {contains : α → Prop} {day : α → Date} {first last : Date}
    (hday : ∃ a, day a = .final)
    (hcontains : ∀ a, contains a ↔ first ≤ day a ∧ day a ≤ last ∧ day a ≠ .final) :
    (∀ a, contains a ↔ first ≤ day a ∧ day a ≤ last) ↔ last ≠ .final := by
  constructor
  · rintro hall rfl
    obtain ⟨a, ha⟩ := hday
    have hin := (hall a).2 ⟨by rw [ha]; exact Date.le_final first, Date.le_final _⟩
    exact ((hcontains a).1 hin).2.2 ha
  · intro hlast a
    rw [hcontains]
    refine ⟨fun h => ⟨h.1, h.2.1⟩, fun h => ⟨h.1, h.2, fun hfinal => hlast ?_⟩⟩
    have hle : Date.final ≤ last := hfinal ▸ h.2
    exact Date.key_injective (Int.le_antisymm (Date.le_final last) hle)

/-- A window contains the days from its first to its last and all times of these days, leap seconds
too, except for the last day of the calendar. So it contains both its ends if and only if that is not
its last day. -/
theorem contains_days_from_first_to_last {first last : Date} {banks : List String}
    (h : make first last banks = .ok w) :
    (∀ d, w.containsDate d = true ↔ first ≤ d ∧ d ≤ last ∧ d ≠ .final) ∧
    (∀ t, w.containsTime t = true ↔ first ≤ t.date ∧ t.date ≤ last ∧ t.date ≠ .final) ∧
    ((∀ d, w.containsDate d = true ↔ first ≤ d ∧ d ≤ last) ↔ last ≠ .final) ∧
    ((∀ t, w.containsTime t = true ↔ first ≤ t.date ∧ t.date ≤ last) ↔ last ≠ .final) := by
  obtain ⟨-, rfl⟩ := make_eq_ok h
  have hdates (d : Date) : containsDate ⟨first, last, banks⟩ d = true ↔
      first ≤ d ∧ d ≤ last ∧ d ≠ .final := by
    rw [containsDate_iff, ne_eq, Date.next?_eq_none_iff]
  have htimes (t : Timestamp) : containsTime ⟨first, last, banks⟩ t = true ↔
      first ≤ t.date ∧ t.date ≤ last ∧ t.date ≠ .final := by
    rw [containsTime_iff, ne_eq, Date.next?_eq_none_iff]
  refine ⟨hdates, htimes, contains_between_iff ⟨.final, rfl⟩ hdates,
    contains_between_iff ⟨.midnight .final, rfl⟩ htimes⟩

/-- The leap second at the end of the last day of a window. -/
theorem leapSecond_contained :
    ∃ (d : Date) (w : Window) (t : Timestamp), make d d [] = .ok w ∧ t.date = d ∧ t.hour = 23 ∧
      t.minute = 59 ∧ t.second = 60 ∧ w.containsTime t = true := by
  have hday : make ⟨2016, 12, 31, by decide⟩ ⟨2016, 12, 31, by decide⟩ []
      = .ok ⟨⟨2016, 12, 31, by decide⟩, ⟨2016, 12, 31, by decide⟩, []⟩ := by rfl
  have hcontains := (contains_days_from_first_to_last hday).2.1
    ⟨⟨2016, 12, 31, by decide⟩, 23, 59, 60, 0, by decide, by decide, by decide, by decide⟩
  exact ⟨_, _, _, hday, rfl, rfl, rfl, rfl, hcontains.2 ⟨by decide, by decide, by decide⟩⟩

/-- A window that ends with the last day of the calendar does not contain that day. -/
theorem final_not_contained :
    make .final .final [] = .ok ⟨.final, .final, []⟩ ∧
      ¬ ∀ (first last : Date) (banks : List String) (w : Window), make first last banks = .ok w →
        (∀ d, w.containsDate d = true ↔ first ≤ d ∧ d ≤ last) ∧
        ∀ t, w.containsTime t = true ↔ first ≤ t.date ∧ t.date ≤ last := by
  have hmake : make .final .final [] = .ok ⟨.final, .final, []⟩ := by rfl
  refine ⟨hmake, fun h => ?_⟩
  have hin := ((h .final .final [] _ hmake).1 .final).2 ⟨by decide, by decide⟩
  exact absurd hin (by decide)

end Window

end LedgerMatch
