import LedgerMatch.Run

/-!
# Steps of a run

What the parts of a run do to the state they start from, for every staging area and every file
system. A part that fails ends the parts behind it.
-/

namespace LedgerMatch

variable {σ φ α β : Type}

namespace RunM

theorem bind_apply (op : RunM σ φ α) (f : α → RunM σ φ β) (s : RunState σ φ) :
    (op >>= f) s = match op s with
      | (.ok a, t) => f a t
      | (.error failure, t) => (.error failure, t) := by
  show (match op s with | (result, t) => ExceptT.bindCont f result t) = _
  obtain ⟨result, t⟩ := op s
  cases result <;> rfl

theorem call_apply (c : StagingCall) (op : σ → Except Failure α × σ) (s : RunState σ φ) :
    call c op s = ((op s.area).1, { s with area := (op s.area).2, calls := s.calls ++ [c] }) :=
  rfl

variable {s t : RunState σ φ}

theorem bind_eq_ok {op : RunM σ φ α} {f : α → RunM σ φ β} {b : β} {u : RunState σ φ}
    (h : (op >>= f) s = (.ok b, u)) : ∃ a t, op s = (.ok a, t) ∧ f a t = (.ok b, u) := by
  rw [bind_apply] at h
  split at h
  · next a t hop => exact ⟨a, t, hop, h⟩
  · cases h

/-- A call of the staging area neither touches files nor warns. -/
theorem call_eq_ok {c : StagingCall} {op : σ → Except Failure α × σ} {a : α}
    (h : call c op s = (.ok a, t)) : t.files = s.files ∧ t.warnings = s.warnings := by
  rw [call_apply] at h
  cases congrArg Prod.snd h
  exact ⟨rfl, rfl⟩

end RunM

namespace RunPlan

theorem stage_apply (plan : RunPlan) (stage : Stage) (op : RunM σ φ α) (s : RunState σ φ) :
    plan.stage stage op s = if plan.isCancelled s.announced.length then (.error .cancelled, s)
      else RunM.within stage op { s with announced := s.announced ++ [.stage stage] } := by
  show (ite (plan.isCancelled s.announced.length = true) _ _ : RunM σ φ α) s = _
  split <;> rfl

/-- A stage that succeeds was not cancelled, and its part succeeded. -/
theorem stage_eq_ok {plan : RunPlan} {stage : Stage} {op : RunM σ φ α} {a : α}
    {s t : RunState σ φ} (h : plan.stage stage op s = (.ok a, t)) :
    plan.isCancelled s.announced.length = false ∧
      op { s with announced := s.announced ++ [.stage stage] } = (.ok a, t) := by
  rw [stage_apply] at h
  split at h
  · cases h
  · next hgoes =>
      rw [RunM.within] at h
      split at h
      · next hop =>
          rw [h] at hop
          exact ⟨Bool.not_eq_true _ ▸ hgoes, hop⟩
      · cases h

/-- A stage leaves the files that its part leaves, unless it is not entered. -/
theorem files_of_stage (plan : RunPlan) (stage : Stage) (op : RunM σ φ α) (s : RunState σ φ) :
    (plan.stage stage op s).2.files = s.files ∨ (plan.stage stage op s).2.files
      = (op { s with announced := s.announced ++ [.stage stage] }).2.files := by
  rw [stage_apply]
  split
  · exact Or.inl rfl
  · rw [RunM.within]
    split
    · next hok =>
        rw [hok]
        exact Or.inr rfl
    · next herror =>
        rw [herror]
        exact Or.inr rfl

variable [FileSystem φ]

/-- What a plan reads from files under a schedule. -/
def input (plan : RunPlan) (schedule : Schedule) (files : φ) :
    Except Failure Intake × List Warning :=
  Intake.read files plan.registry schedule plan.settings.hasHeader plan.settings.ledgerRoot
    plan.settings.statementRoot plan.window

theorem intake_apply (plan : RunPlan) (s : RunState σ φ) :
    plan.intake s = ((plan.input plan.schedule s.files).1,
      { s with warnings := s.warnings ++ (plan.input plan.schedule s.files).2 }) :=
  rfl

theorem writeFiles_apply (plan : RunPlan) (matched : List MatchedRow) (entries : List OpenEntry)
    (lines : List OpenLine) (s : RunState σ φ) :
    plan.writeFiles matched entries lines s =
      ((writeReport plan.schedule plan.report matched entries lines s.files).1,
        { s with
          files := (writeReport plan.schedule plan.report matched entries lines s.files).2.2
          warnings := s.warnings ++
            (writeReport plan.schedule plan.report matched entries lines s.files).2.1 }) :=
  rfl

end RunPlan

end LedgerMatch
