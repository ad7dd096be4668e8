import LedgerMatch.Proofs.Staging.Matching
import LedgerMatch.Staging.Area

/-!
# Staging areas over time

A staging area that begins empty serves requests in any order, and keeps what it has when one
fails. Whenever it has tables they are sound. Only preparing it and discarding its tables take
anything away.
-/

namespace LedgerMatch

/-- What can be asked of a staging area that lies in a file. -/
inductive StagingRequest where
  | prepare (w : Window)
  | importEntries (entries : List LedgerEntry) (chunks : Nat)
  | importLines (lines : List StatementLine) (chunks : Nat)
  | matchAmounts (smallest largest : Amount) (buckets : Nat)
  | discard
  /-- closes the area and opens it again -/
  | reopen

/-- Preparing an area and discarding its tables replace what it has. -/
def StagingRequest.Replaces : StagingRequest → Prop
  | prepare _ => True
  | discard => True
  | _ => False

namespace Staging

/-- The area after a request, whether it fails or not. -/
def serve (s : Staging) : StagingRequest → Staging
  | .prepare w => (StagingArea.prepare s w).2
  | .importEntries entries chunks => (StagingArea.importEntries s entries chunks).2
  | .importLines lines chunks => (StagingArea.importLines s lines chunks).2
  | .matchAmounts smallest largest buckets =>
      (StagingArea.matchAmounts s smallest largest buckets).2
  | .discard => (StagingArea.discard s).2
  | .reopen => (StagingArea.close s).2

/-- An area that began empty and served requests. -/
inductive Reachable : Staging → Prop where
  | empty : Reachable .empty
  | serve {s : Staging} (request : StagingRequest) (h : Reachable s) : Reachable (s.serve request)

/-- An area whose tables are sound. -/
def Sound (s : Staging) : Prop := ∀ t, s.tables = some t → t.Sound

/-- An area that has tables has them still, with more behind. -/
def Extends (s u : Staging) : Prop := ∀ t, s.tables = some t → ∃ v, u.tables = some v ∧ t.Extends v

theorem Extends.refl (s : Staging) : s.Extends s := fun t ht => ⟨t, ht, .refl t⟩

theorem Extends.trans {s u v : Staging} (h : s.Extends u) (h' : u.Extends v) : s.Extends v := by
  intro t ht
  obtain ⟨x, hx, htx⟩ := h t ht
  obtain ⟨y, hy, hxy⟩ := h' x hx
  exact ⟨y, hy, htx.trans hxy⟩

/-! ### One request -/

variable {s : Staging}

/-- A change that keeps sound tables sound and extends them does so to an area. -/
theorem update_sound {op : Tables → Except Failure Unit × Tables} (h : s.Sound)
    (hop : ∀ t : Tables, t.Sound → (op t).2.Sound ∧ t.Extends (op t).2) :
    (s.update op).2.Sound ∧ s.Extends (s.update op).2 := by
  obtain ⟨tables⟩ := s
  cases tables with
  | none => exact ⟨h, .refl _⟩
  | some t =>
      obtain ⟨hsound, hext⟩ := hop t (h t rfl)
      constructor
      · intro u hu
        rw [← Option.some.inj hu]
        exact hsound
      · intro u hu
        rw [← Option.some.inj hu]
        exact ⟨_, rfl, hext⟩

theorem serve_importEntries (h : s.Sound) (entries : List LedgerEntry) (chunks : Nat) :
    (s.serve (.importEntries entries chunks)).Sound ∧
      s.Extends (s.serve (.importEntries entries chunks)) := by
  show (s.importEntries entries chunks).2.Sound ∧ s.Extends (s.importEntries entries chunks).2
  rw [importEntries]
  split
  · exact ⟨h, .refl s⟩
  · exact update_sound h fun t ht => Tables.importEntries_sound ht entries chunks

theorem serve_importLines (h : s.Sound) (lines : List StatementLine) (chunks : Nat) :
    (s.serve (.importLines lines chunks)).Sound ∧
      s.Extends (s.serve (.importLines lines chunks)) := by
  show (s.importLines lines chunks).2.Sound ∧ s.Extends (s.importLines lines chunks).2
  rw [importLines]
  split
  · exact ⟨h, .refl s⟩
  · exact update_sound h fun t ht => Tables.importLines_sound ht lines chunks

theorem serve_matchAmounts (h : s.Sound) (smallest largest : Amount) (buckets : Nat) :
    (s.serve (.matchAmounts smallest largest buckets)).Sound ∧
      s.Extends (s.serve (.matchAmounts smallest largest buckets)) :=
  update_sound h fun _ ht => Tables.matchAmounts_sound ht smallest largest buckets

/-- A prepared area is sound, whatever was in it. -/
theorem prepare_sound (s : Staging) (w : Window) : (s.prepare w).Sound := by
  intro t ht
  rw [← Option.some.inj ht]
  exact Tables.fresh_sound w

/-- A request keeps an area sound. -/
theorem Sound.serve (h : s.Sound) (request : StagingRequest) : (s.serve request).Sound := by
  cases request with
  | prepare w => exact prepare_sound s w
  | importEntries entries chunks => exact (serve_importEntries h entries chunks).1
  | importLines lines chunks => exact (serve_importLines h lines chunks).1
  | matchAmounts smallest largest buckets =>
      exact (serve_matchAmounts h smallest largest buckets).1
  | discard => exact fun t ht => by cases ht
  | reopen => exact h

/-- A request that does not replace what an area has only adds to it. -/
theorem Sound.extends_serve (h : s.Sound) {request : StagingRequest} (hkeeps : ¬ request.Replaces) :
    s.Extends (s.serve request) := by
  cases request with
  | prepare w => exact (hkeeps trivial).elim
  | importEntries entries chunks => exact (serve_importEntries h entries chunks).2
  | importLines lines chunks => exact (serve_importLines h lines chunks).2
  | matchAmounts smallest largest buckets =>
      exact (serve_matchAmounts h smallest largest buckets).2
  | discard => exact (hkeeps trivial).elim
  | reopen => exact .refl s

/-! ### Runs of requests -/

theorem Reachable.sound (h : s.Reachable) : s.Sound := by
  induction h with
  | empty => exact fun t ht => by cases ht
  | serve request _ ih => exact ih.serve request

/-- The area after requests, one after the other. -/
def serveAll (s : Staging) (requests : List StagingRequest) : Staging := requests.foldl serve s

/-- Requests keep an area sound, and only add to it as long as none replaces what it has. -/
theorem Sound.serveAll (h : s.Sound) {requests : List StagingRequest}
    (hkeeps : ∀ request ∈ requests, ¬ request.Replaces) :
    (s.serveAll requests).Sound ∧ s.Extends (s.serveAll requests) := by
  induction requests generalizing s with
  | nil => exact ⟨h, .refl s⟩
  | cons request rest ih =>
      have hfirst := h.extends_serve (hkeeps request List.mem_cons_self)
      obtain ⟨hsound, hext⟩ :=
        ih (h.serve request) fun later hlater => hkeeps later (List.mem_cons_of_mem _ hlater)
      exact ⟨hsound, hfirst.trans hext⟩

end Staging

end LedgerMatch
