/-!
# Schedules

Tasks that run side by side finish in some order. Each leaves its result together with its number,
and the results are put back into the order of the tasks.
-/

namespace LedgerMatch

/-- The order in which a number of tasks finish: each of them once. -/
structure Schedule where
  order : Nat → List Nat
  perm : ∀ n, (order n).Perm (List.range n)

namespace Schedule

/-- One task after the other. -/
def sequential : Schedule := ⟨List.range, fun _ => .refl _⟩

/-- The last task first. -/
def reversed : Schedule := ⟨fun n => (List.range n).reverse, fun _ => List.reverse_perm _⟩

variable {σ α : Type}

/-- Runs the tasks with the given numbers and collects their results, latest first. -/
def collect (tasks : List (σ → α × σ)) : List Nat → List (Nat × α) → σ → List (Nat × α) × σ
  | [], results, s => (results, s)
  | i :: rest, results, s =>
      match tasks[i]? with
      | none => collect tasks rest results s
      | some task =>
          let (a, s) := task s
          collect tasks rest ((i, a) :: results) s

/-- Runs tasks on a shared state and returns their results in the order of the tasks. -/
def run (schedule : Schedule) (tasks : List (σ → α × σ)) (s : σ) : List α × σ :=
  let (results, s) := collect tasks (schedule.order tasks.length) [] s
  ((results.mergeSort fun a b => a.1 ≤ b.1).map (·.2), s)

end Schedule

end LedgerMatch
