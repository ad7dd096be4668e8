import LedgerMatch.Proofs.Staging.Conservation

/-!
# The records of a staging area

What an area holds can be told from the requests it served: the records staged since it was last
prepared, for the window it was prepared for. Whatever was asked of it besides, it reports all of
these that are in scope and nothing else, each as it was staged. For windows in the years 0 to 9999
the records in scope are those that intake keeps; beyond these years texts of dates do not stand in
the order of the dates, and the two differ.
-/

namespace LedgerMatch

/-! ### Records in scope are reported -/

/-- What is staged of an entry: the fraction of its second is not. -/
def LedgerEntry.whole (e : LedgerEntry) : LedgerEntry :=
  { e with time := { e.time with billionths := 0, billionths_lt := Nat.zero_lt_of_lt e.time.billionths_lt } }

namespace Tables.Holds

variable {t : Tables} {w : Window} {entries : List LedgerEntry} {lines : List StatementLine}

/-- A ledger row in scope is the row of an entry. -/
theorem exists_entry (h : t.Holds w entries lines) {r : LedgerRow} (hr : r ∈ t.scopedLedger) :
    ∃ e ∈ entries, ∃ number, r = .ofEntry number e := by
  rw [h.scopedLedger_eq] at hr
  obtain ⟨e, he, rfl⟩ := List.mem_map.1 hr
  exact ⟨e.1, List.fst_mem_of_mem_zipIdx (List.mem_filter.1 he).1, _, rfl⟩

/-- A statement row in scope is the row of a line. -/
theorem exists_line (h : t.Holds w entries lines) {r : StatementRow}
    (hr : r ∈ t.scopedStatements) : ∃ l ∈ lines, ∃ number, r = .ofLine number l := by
  rw [h.scopedStatements_eq] at hr
  obtain ⟨l, hl, rfl⟩ := List.mem_map.1 hr
  exact ⟨l.1, List.fst_mem_of_mem_zipIdx (List.mem_filter.1 hl).1, _, rfl⟩

/-- Rows of entries are rows of what is staged of them. -/
theorem whole (h : t.Holds w entries lines) : t.Holds w (entries.map LedgerEntry.whole) lines where
  sound := h.sound
  scope := h.scope
  ledger := by
    rw [h.ledger, entryRows, entryRows, List.zipIdx_map, List.map_map]
    rfl
  statements := h.statements

section

variable (h : t.Holds w entries lines) (hwhole : ∀ e ∈ entries, e.time.billionths = 0)

include h hwhole

theorem exists_matched : ∃ matched, t.matched = .ok matched := by
  refine exists_mapM_eq_ok fun row hrow => ?_
  obtain ⟨hl, hr, -⟩ := exists_pair_of_mem_joinedRows hrow
  obtain ⟨e, he, i, hledger⟩ := h.exists_entry hl
  obtain ⟨l, -, j, hstatement⟩ := h.exists_line hr
  have hrow' : row = (.ofEntry i e, .ofLine j l) := Prod.ext hledger hstatement
  rw [hrow']
  exact ⟨_, readMatched_ofRecords (hwhole e he) l i j⟩

theorem exists_openEntries : ∃ openEntries, t.openEntries = .ok openEntries := by
  refine exists_mapM_eq_ok fun r hr => ?_
  obtain ⟨e, he, i, rfl⟩ := h.exists_entry (List.mem_filter.1 (List.mem_mergeSort.1 hr)).1
  exact ⟨_, readOpenEntry_ofEntry (hwhole e he) i⟩

omit hwhole in
theorem exists_openLines : ∃ openLines, t.openLines = .ok openLines := by
  refine exists_mapM_eq_ok fun r hr => ?_
  obtain ⟨l, -, j, rfl⟩ := h.exists_line (List.mem_filter.1 (List.mem_mergeSort.1 hr)).1
  exact ⟨_, readOpenLine_ofLine l j⟩

end

/-- All lists can be read, whatever the times of the entries are. -/
theorem exists_lists (h : t.Holds w entries lines) :
    (∃ matched, t.matched = .ok matched) ∧ (∃ openEntries, t.openEntries = .ok openEntries) ∧
      ∃ openLines, t.openLines = .ok openLines := by
  have hwhole : ∀ e ∈ entries.map LedgerEntry.whole, e.time.billionths = 0 := by
    intro e he
    obtain ⟨f, -, rfl⟩ := List.mem_map.1 he
    rfl
  exact ⟨h.whole.exists_matched hwhole, h.whole.exists_openEntries hwhole, h.exists_openLines⟩

/-! ### Records in scope are counted -/

/-- A single amount can always be added up. -/
theorem exists_sums {r : LedgerRow} {a : Amount} (h : stagedAmount r.amount = .ok a)
    (joined : Bool) : ∃ sums, Tables.sums [(r, joined)] = .ok sums := by
  have hzero : addTerm .zero a = .ok a := rfl
  have hadd : ∃ sums, Sums.add {} (r.amount, joined) = .ok sums := by
    cases joined with
    | false =>
        exact ⟨_, bind_eq_ok.2 ⟨a, h, bind_eq_ok.2 ⟨a, hzero, bind_eq_ok.2 ⟨a, hzero, rfl⟩⟩⟩⟩
    | true =>
        exact ⟨_, bind_eq_ok.2 ⟨a, h, bind_eq_ok.2 ⟨a, hzero, bind_eq_ok.2 ⟨a, hzero, rfl⟩⟩⟩⟩
  obtain ⟨sums, hok⟩ := hadd
  refine ⟨sums, ?_⟩
  rw [Tables.sums, List.map_cons, List.map_nil, List.foldlM_cons, hok]
  rfl

/-- At most one entry can always be summed up. -/
theorem exists_summary (h : t.Holds w entries lines) (hfew : entries.length ≤ 1) :
    ∃ summary, t.summary = .ok summary := by
  have hsums : ∃ sums, Tables.sums t.pairedLedger = .ok sums := by
    have hlength := h.length_scopedLedger
    have hfilter := List.length_filter_le (StagingScope.ofWindow w).hasEntry entries
    rw [h.sound.pairedLedger_eq]
    cases hrows : t.scopedLedger with
    | nil => exact ⟨_, rfl⟩
    | cons r rest =>
        rw [hrows, List.length_cons] at hlength
        have hrest : rest = [] := List.length_eq_zero_iff.1 (by omega)
        have hr : r ∈ t.scopedLedger := by
          rw [hrows]
          exact List.mem_cons_self
        obtain ⟨e, -, i, hentry⟩ := h.exists_entry hr
        have hread : stagedAmount r.amount = .ok e.amount.plainForm := by
          rw [hentry]
          exact Amount.stagedAmount_text e.amount
        rw [hrest, List.map_cons, List.map_nil]
        exact exists_sums hread _
  obtain ⟨sums, hok⟩ := hsums
  exact ⟨_, bind_eq_ok.2 ⟨sums, hok, rfl⟩⟩

end Tables.Holds

/-! ### What requests leave in an area -/

/-- The records staged in an area, and the window it was prepared for. -/
structure StagedRecords where
  window : Window
  entries : List LedgerEntry
  lines : List StatementLine

namespace StagedRecords

/-- The entries that the area has in scope. -/
def scopedEntries (held : StagedRecords) : List LedgerEntry :=
  held.entries.filter (StagingScope.ofWindow held.window).hasEntry

/-- The lines that the area has in scope. -/
def scopedLines (held : StagedRecords) : List StatementLine :=
  held.lines.filter (StagingScope.ofWindow held.window).hasLine

end StagedRecords

/-- What an area holds after a request. Before it is prepared it holds nothing, and nothing can be
staged in it. -/
def StagingRequest.hold (held : Option StagedRecords) : StagingRequest → Option StagedRecords
  | prepare w => some ⟨w, [], []⟩
  | importEntries entries _ => held.map fun r => { r with entries := r.entries ++ entries }
  | importLines lines _ => held.map fun r => { r with lines := r.lines ++ lines }
  | matchAmounts .. => held
  | discard => none
  | reopen => held

/-- What an area that began empty holds after requests. -/
def StagingRequest.holdAll (requests : List StagingRequest) : Option StagedRecords :=
  requests.foldl hold none

namespace Staging

/-- An area with sound tables for the records it holds, or without tables if it holds nothing. -/
def Holds (s : Staging) : Option StagedRecords → Prop
  | none => s.tables = none
  | some held => ∃ t, s.tables = some t ∧ t.Holds held.window held.entries held.lines

variable {s : Staging} {held : Option StagedRecords}

/-- A change of tables that changes the records they hold. -/
theorem Holds.update (h : s.Holds held) {op : Tables → Except Failure Unit × Tables}
    {f : StagedRecords → StagedRecords}
    (hop : ∀ (t : Tables) (r : StagedRecords), t.Holds r.window r.entries r.lines →
      (op t).2.Holds (f r).window (f r).entries (f r).lines) :
    (s.update op).2.Holds (held.map f) := by
  obtain ⟨tables⟩ := s
  cases held with
  | none =>
      replace h : tables = none := h
      subst h
      rfl
  | some r =>
      obtain ⟨t, rfl, ht⟩ := h
      exact ⟨_, rfl, hop t r ht⟩

/-- A request leaves in an area what it says. -/
theorem Holds.serve (h : s.Holds held) (request : StagingRequest) :
    (s.serve request).Holds (request.hold held) := by
  cases request with
  | prepare w => exact ⟨_, rfl, .fresh w⟩
  | importEntries entries chunks =>
      show (s.importEntries entries chunks).2.Holds
        (held.map fun r => { r with entries := r.entries ++ entries })
      rw [importEntries]
      split
      · next hnone =>
          subst hnone
          simpa using h
      · exact h.update fun _ _ ht => ht.importEntries entries chunks
  | importLines lines chunks =>
      show (s.importLines lines chunks).2.Holds
        (held.map fun r => { r with lines := r.lines ++ lines })
      rw [importLines]
      split
      · next hnone =>
          subst hnone
          simpa using h
      · exact h.update fun _ _ ht => ht.importLines lines chunks
  | matchAmounts smallest largest buckets =>
      have hmatch := h.update (f := id) fun _ _ ht => (ht.matchAmounts smallest largest buckets).2
      rw [Option.map_id] at hmatch
      exact hmatch
  | discard => exact rfl
  | reopen => exact h

theorem Holds.serveAll (h : s.Holds held) (requests : List StagingRequest) :
    (s.serveAll requests).Holds (requests.foldl StagingRequest.hold held) := by
  induction requests generalizing s held with
  | nil => exact h
  | cons request rest ih => exact ih (h.serve request)

/-- After any requests an area that is prepared answers every query, and the matched rows and the
rows left over are together the records in scope, each as often as it was staged and as it was. -/
theorem serveAll_reports {requests : List StagingRequest} {held : StagedRecords}
    (hheld : StagingRequest.holdAll requests = some held)
    (hwhole : ∀ e ∈ held.entries, e.time.billionths = 0) :
    ∃ (matched : List MatchedRow) (openEntries : List OpenEntry) (openLines : List OpenLine),
      (empty.serveAll requests).matched = .ok matched ∧
      (empty.serveAll requests).openEntries = .ok openEntries ∧
      (empty.serveAll requests).openLines = .ok openLines ∧
      (matched.map MatchedRow.ledgerSide ++ openEntries.map OpenEntry.side).Perm
        (held.scopedEntries.map LedgerEntry.side) ∧
      (matched.map MatchedRow.statementSide ++ openLines.map OpenLine.side).Perm
        (held.scopedLines.map StatementLine.side) := by
  have hempty : empty.Holds none := rfl
  have hall := hempty.serveAll requests
  rw [show requests.foldl StagingRequest.hold none = some held from hheld] at hall
  obtain ⟨t, htables, ht⟩ := hall
  obtain ⟨matched, hmatched⟩ := ht.exists_matched hwhole
  obtain ⟨openEntries, hentries⟩ := ht.exists_openEntries hwhole
  obtain ⟨openLines, hlines⟩ := ht.exists_openLines
  refine ⟨matched, openEntries, openLines, ?_, ?_, ?_,
    ht.ledger_conserved hwhole hmatched hentries, ht.statements_conserved hmatched hlines⟩
  · rw [Staging.matched, query, htables]
    exact hmatched
  · rw [Staging.openEntries, query, htables]
    exact hentries
  · rw [Staging.openLines, query, htables]
    exact hlines

/-- A day that is written with a sign. -/
def earlyDay : Date := ⟨-5, 2, 28, by decide⟩

def earlyWindow : Window := ⟨earlyDay, earlyDay, ["bca"]⟩

/-- An entry in a leap second. -/
def leapEntry : LedgerEntry :=
  { twinEntry with
    direction := .debit
    time := { Timestamp.midnight earlyDay with
              hour := 23, minute := 59, second := 60
              hour_lt := by decide, minute_lt := by decide, second_le := by decide } }

def earlyLine : StatementLine := { twinLine with date := earlyDay }

def earlyRequests : List StagingRequest :=
  [.importEntries [twinEntry] 1, .prepare earlyWindow, .importEntries [leapEntry, twinEntry] 2,
    .matchAmounts .zero .zero 1, .importLines [earlyLine, twinLine] 3, .reopen,
    .importEntries [leapEntry] 1]

def earlyRecords : StagedRecords :=
  ⟨earlyWindow, [leapEntry, twinEntry, leapEntry], [earlyLine, twinLine]⟩

theorem earlyRequests_reports :
    StagingRequest.holdAll earlyRequests = some earlyRecords ∧
      (∀ e ∈ earlyRecords.entries, e.time.billionths = 0) ∧
      earlyRecords.scopedEntries = [leapEntry, leapEntry] ∧
      earlyRecords.scopedLines = [earlyLine] ∧
      ∃ (matched : List MatchedRow) (openEntries : List OpenEntry) (openLines : List OpenLine),
        (empty.serveAll earlyRequests).matched = .ok matched ∧
        (empty.serveAll earlyRequests).openEntries = .ok openEntries ∧
        (empty.serveAll earlyRequests).openLines = .ok openLines ∧
        (matched.map MatchedRow.ledgerSide ++ openEntries.map OpenEntry.side).Perm
          (earlyRecords.scopedEntries.map LedgerEntry.side) ∧
        (matched.map MatchedRow.statementSide ++ openLines.map OpenLine.side).Perm
          (earlyRecords.scopedLines.map StatementLine.side) :=
  have hwhole : ∀ e ∈ earlyRecords.entries, e.time.billionths = 0 := by decide
  ⟨rfl, hwhole, by decide +kernel, by decide +kernel, serveAll_reports rfl hwhole⟩

/-! ### Records in scope are counted -/

/-- The summary counts the records in scope. With one entry at most there is a summary. -/
theorem Holds.exists_summary {held : StagedRecords} (h : s.Holds held)
    (hfew : held.entries.length ≤ 1) :
    ∃ summary, s.summary = .ok summary ∧ summary.ledgerCount = held.scopedEntries.length ∧
      summary.statementCount = held.scopedLines.length := by
  obtain ⟨t, htables, ht⟩ := h
  obtain ⟨summary, hsummary⟩ := ht.exists_summary hfew
  refine ⟨summary, ?_, ht.summary_counts hsummary⟩
  rw [Staging.summary, query, htables]
  exact hsummary

/-- A record that is staged in a prepared area is counted if and only if it is in scope, which in the
years 0 to 9999 it is if and only if intake keeps it. -/
theorem counted_iff_in_scope (s : Staging) (w : Window) (chunks : Nat) :
    (∀ e : LedgerEntry, ∃ summary,
      (s.serveAll [.prepare w, .importEntries [e] chunks]).summary = .ok summary ∧
        (summary.ledgerCount = if (StagingScope.ofWindow w).hasEntry e then 1 else 0) ∧
        (w.HasPlainYears → summary.ledgerCount = if w.keepsEntry e then 1 else 0)) ∧
    ∀ l : StatementLine, ∃ summary,
      (s.serveAll [.prepare w, .importLines [l] chunks]).summary = .ok summary ∧
        (summary.statementCount = if (StagingScope.ofWindow w).hasLine l then 1 else 0) ∧
        (w.HasPlainYears → summary.statementCount = if w.keepsLine l then 1 else 0) := by
  have hprepared : (s.serve (.prepare w)).Holds (some ⟨w, [], []⟩) := ⟨_, rfl, .fresh w⟩
  constructor
  · intro e
    have hstaged : (s.serveAll [.prepare w, .importEntries [e] chunks]).Holds
        (some ⟨w, [e], []⟩) := hprepared.serve (.importEntries [e] chunks)
    obtain ⟨summary, hsummary, hcount, -⟩ := hstaged.exists_summary (Nat.le_refl 1)
    rw [StagedRecords.scopedEntries, ← List.countP_eq_length_filter, List.countP_singleton] at hcount
    exact ⟨summary, hsummary, hcount, fun hw => by rw [hcount, hw.hasEntry_eq]⟩
  · intro l
    have hstaged : (s.serveAll [.prepare w, .importLines [l] chunks]).Holds
        (some ⟨w, [], [l]⟩) := hprepared.serve (.importLines [l] chunks)
    obtain ⟨summary, hsummary, -, hcount⟩ := hstaged.exists_summary (Nat.zero_le 1)
    rw [StagedRecords.scopedLines, ← List.countP_eq_length_filter, List.countP_singleton] at hcount
    exact ⟨summary, hsummary, hcount, fun hw => by rw [hcount, hw.hasLine_eq]⟩

theorem twinWindow_counted_iff_in_scope :
    twinWindow.HasPlainYears ∧ twinWindow.keepsEntry twinEntry = true ∧
      ∃ summary,
        (twins.serveAll [.prepare twinWindow, .importEntries [twinEntry] 1]).summary = .ok summary ∧
          summary.ledgerCount = 1 := by
  have hyears : twinWindow.HasPlainYears := ⟨⟨by decide, by decide⟩, ⟨by decide, by decide⟩⟩
  have hkept : twinWindow.keepsEntry twinEntry = true := by decide
  obtain ⟨summary, hsummary, -, hcount⟩ := (counted_iff_in_scope twins twinWindow 1).1 twinEntry
  have hone := hcount hyears
  rw [if_pos hkept] at hone
  exact ⟨hyears, hkept, summary, hsummary, hone⟩

/-- A window up to the first day whose year has five digits. -/
def lateWindow : Window := ⟨twinDay, ⟨10000, 1, 1, by decide⟩, ["BCA"]⟩

/-- Beyond the year 9999 entries that intake keeps need not be counted. -/
theorem kept_not_counted :
    ¬ ∀ (s : Staging) (w : Window) (e : LedgerEntry) (chunks : Nat) (summary : Summary),
      w.first ≤ w.last →
        (s.serveAll [.prepare w, .importEntries [e] chunks]).summary = .ok summary →
          summary.ledgerCount = if w.keepsEntry e then 1 else 0 := by
  intro hclaim
  have hsummary : ((empty.serveAll [.prepare lateWindow, .importEntries [twinEntry] 1]).summary.map
      Summary.ledgerCount) = .ok 0 := by decide +kernel
  cases hresult : (empty.serveAll [.prepare lateWindow, .importEntries [twinEntry] 1]).summary with
  | error failure =>
      rw [hresult] at hsummary
      cases hsummary
  | ok summary =>
      rw [hresult] at hsummary
      have hnone : summary.ledgerCount = 0 := Except.ok.inj hsummary
      have hkept : lateWindow.keepsEntry twinEntry = true := by decide
      have hone := hclaim empty lateWindow twinEntry 1 summary (by decide) hresult
      rw [if_pos hkept, hnone] at hone
      cases hone

end Staging

end LedgerMatch
