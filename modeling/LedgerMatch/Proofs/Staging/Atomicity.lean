import LedgerMatch.Proofs.Staging.Records

/-!
# Requests are carried out as a whole or not at all

Imports go chunk by chunk and matching goes bucket by bucket, and what is done stays done. So a
request could stop half-way, with a row that holds no finite number or with a pair of a row that has
one already. In tables that can be reached it never does: whatever was staged and matched before,
every chunk and every bucket succeeds. What remains are requests that find no tables, and these do
nothing at all.
-/

namespace LedgerMatch

namespace Tables

/-- Buckets of any kind, also ones that overlap, are matched up to the last. -/
theorem Sound.sequence_matchBucket_foldl {t : Tables} (h : t.Sound) (bs : List AmountBucket) :
    t.sequence matchBucket bs = (.ok (), bs.foldl Tables.afterBucket t) := by
  induction bs generalizing t with
  | nil => rfl
  | cons b rest ih =>
      rw [sequence_cons_ok (h.matchBucket_eq b)]
      exact ih (h.afterBucket b)

end Tables

/-- Staging records and matching rows need tables. An import without records needs none. -/
def StagingRequest.NeedsTables : StagingRequest → Prop
  | importEntries entries _ => entries ≠ []
  | importLines lines _ => lines ≠ []
  | matchAmounts .. => True
  | _ => False

namespace Staging

variable {s : Staging}

/-- What an area answers to a request. -/
def answer (s : Staging) : StagingRequest → Except Failure Unit
  | .prepare w => (StagingArea.prepare s w).1
  | .importEntries entries chunks => (StagingArea.importEntries s entries chunks).1
  | .importLines lines chunks => (StagingArea.importLines s lines chunks).1
  | .matchAmounts smallest largest buckets =>
      (StagingArea.matchAmounts s smallest largest buckets).1
  | .discard => (StagingArea.discard s).1
  | .reopen => (StagingArea.close s).1

/-- The area after a request that its tables serve up to the last chunk or bucket. -/
def carriedOut (t : Tables) : StagingRequest → Staging
  | .prepare w => ⟨some (.fresh w)⟩
  | .importEntries entries _ => ⟨some (t.withEntries entries)⟩
  | .importLines lines _ => ⟨some (t.withLines lines)⟩
  | .matchAmounts smallest largest buckets =>
      ⟨some ((amountBuckets smallest.real largest.real buckets).foldl Tables.afterBucket t)⟩
  | .discard => .empty
  | .reopen => ⟨some t⟩

/-! ### Areas with tables -/

theorem matchAmounts_some {t : Tables} (h : t.Sound) (smallest largest : Amount) (buckets : Nat) :
    matchAmounts ⟨some t⟩ smallest largest buckets =
      (.ok (), carriedOut t (.matchAmounts smallest largest buckets)) := by
  rw [matchAmounts, update_some, Tables.matchAmounts, h.sequence_matchBucket_foldl]
  rfl

/-- Sound tables carry out every request. -/
theorem carriedOut_of_sound {t : Tables} (h : t.Sound) (request : StagingRequest) :
    answer ⟨some t⟩ request = .ok () ∧ serve ⟨some t⟩ request = carriedOut t request := by
  cases request with
  | prepare w => exact ⟨rfl, rfl⟩
  | importEntries entries chunks =>
      have hresult := importEntries_some t entries chunks
      exact ⟨congrArg Prod.fst hresult, congrArg Prod.snd hresult⟩
  | importLines lines chunks =>
      have hresult := importLines_some t lines chunks
      exact ⟨congrArg Prod.fst hresult, congrArg Prod.snd hresult⟩
  | matchAmounts smallest largest buckets =>
      have hresult := matchAmounts_some h smallest largest buckets
      exact ⟨congrArg Prod.fst hresult, congrArg Prod.snd hresult⟩
  | discard => exact ⟨rfl, rfl⟩
  | reopen => exact ⟨rfl, rfl⟩

/-! ### Areas without tables -/

/-- Without tables, what needs them is refused and changes nothing. -/
theorem refused_of_empty {request : StagingRequest} (hneeds : request.NeedsTables) :
    empty.answer request = .error .staging ∧ empty.serve request = empty := by
  cases request with
  | prepare w => exact hneeds.elim
  | importEntries entries chunks =>
      have hresult : empty.importEntries entries chunks = (.error .staging, empty) := if_neg hneeds
      exact ⟨congrArg Prod.fst hresult, congrArg Prod.snd hresult⟩
  | importLines lines chunks =>
      have hresult : empty.importLines lines chunks = (.error .staging, empty) := if_neg hneeds
      exact ⟨congrArg Prod.fst hresult, congrArg Prod.snd hresult⟩
  | matchAmounts smallest largest buckets => exact ⟨rfl, rfl⟩
  | discard => exact hneeds.elim
  | reopen => exact hneeds.elim

theorem answer_of_not_needsTables {request : StagingRequest} (hneeds : ¬ request.NeedsTables) :
    empty.answer request = .ok () := by
  cases request with
  | prepare w => rfl
  | importEntries entries chunks =>
      have hresult : empty.importEntries entries chunks = (.ok (), empty) :=
        if_pos (Decidable.of_not_not hneeds)
      exact congrArg Prod.fst hresult
  | importLines lines chunks =>
      have hresult : empty.importLines lines chunks = (.ok (), empty) :=
        if_pos (Decidable.of_not_not hneeds)
      exact congrArg Prod.fst hresult
  | matchAmounts smallest largest buckets => exact (hneeds trivial).elim
  | discard => rfl
  | reopen => rfl

/-! ### All areas that can be reached -/

theorem eq_of_tables (h : s.tables = none) : s = empty := by
  obtain ⟨tables⟩ := s
  replace h : tables = none := h
  rw [h]
  rfl

theorem eq_of_tables_some {t : Tables} (h : s.tables = some t) : s = ⟨some t⟩ := by
  obtain ⟨tables⟩ := s
  replace h : tables = some t := h
  rw [h]

/-- Only a request that needs tables and finds none fails. -/
theorem Reachable.answer_eq_error (h : s.Reachable) {request : StagingRequest} {failure : Failure}
    (hfails : s.answer request = .error failure) :
    s.tables = none ∧ request.NeedsTables := by
  cases htables : s.tables with
  | some t =>
      rw [eq_of_tables_some htables, (carriedOut_of_sound (h.sound t htables) request).1] at hfails
      cases hfails
  | none =>
      refine ⟨rfl, ?_⟩
      by_contra hneeds
      rw [eq_of_tables htables, answer_of_not_needsTables hneeds] at hfails
      cases hfails

/-- An area with tables carries out every request, up to its last chunk or bucket. One without
tables refuses what needs them. A request that fails and a query leave an area as it was. -/
theorem Reachable.all_or_nothing (h : s.Reachable) :
    (∀ t, s.tables = some t → ∀ request,
      s.answer request = .ok () ∧ s.serve request = carriedOut t request) ∧
    (s.tables = none → ∀ request, request.NeedsTables → s.answer request = .error .staging) ∧
    (∀ request failure, s.answer request = .error failure → s.serve request = s) ∧
    (StagingArea.summary s).2 = s ∧ (StagingArea.matched s).2 = s ∧
      (StagingArea.openEntries s).2 = s ∧ (StagingArea.openLines s).2 = s := by
  refine ⟨?_, ?_, ?_, rfl, rfl, rfl, rfl⟩
  · intro t htables request
    rw [eq_of_tables_some htables]
    exact carriedOut_of_sound (h.sound t htables) request
  · intro htables request hneeds
    rw [eq_of_tables htables]
    exact (refused_of_empty hneeds).1
  · intro request failure hfails
    obtain ⟨htables, hneeds⟩ := h.answer_eq_error hfails
    rw [eq_of_tables htables]
    exact (refused_of_empty hneeds).2

/-- The area with rows left over stages its records and matches them once more; after its tables are
discarded it does neither. -/
theorem leftovers_all_or_nothing :
    leftovers.Reachable ∧ leftovers.tables = some leftoverTables ∧
      leftovers.answer (.importEntries [twinEntry, twinEntry] 2) = .ok () ∧
      leftovers.answer (.matchAmounts .zero .zero 5) = .ok () ∧
      (leftovers.serve .discard).Reachable ∧ (leftovers.serve .discard).tables = none ∧
      (leftovers.serve .discard).answer (.importLines [twinLine] 1) = .error .staging ∧
      (leftovers.serve .discard).serve (.importLines [twinLine] 1) = leftovers.serve .discard := by
  have hreach : leftovers.Reachable := .serve _ (.serve _ (.serve _ twins_reachable))
  have hgone : (leftovers.serve .discard).Reachable := .serve _ hreach
  have hneeds : (StagingRequest.importLines [twinLine] 1).NeedsTables := by
    simp [StagingRequest.NeedsTables]
  obtain ⟨hserved, -⟩ := hreach.all_or_nothing
  obtain ⟨-, hrefused, hkept, -⟩ := hgone.all_or_nothing
  have hfails := hrefused rfl _ hneeds
  exact ⟨hreach, leftovers_tables, (hserved _ leftovers_tables _).1,
    (hserved _ leftovers_tables _).1, hgone, rfl, hfails, hkept _ _ hfails⟩

end Staging

end LedgerMatch
