import LedgerMatch.Proofs.Common
import LedgerMatch.Schedule

/-!
# Schedules do not matter to independent tasks

Tasks are independent if none of them changes the result of another and any two of them lead to
related states in either order. Then all schedules give the same results, in the order of the tasks,
and related states. What a task leaves behind is there in the end if the other tasks keep it.
-/

namespace LedgerMatch.Schedule

variable {σ α : Type}

/-- A task that takes related states to one result and related states. -/
def Respects (R : σ → σ → Prop) (task : σ → α × σ) : Prop :=
  ∀ s u, R s u → (task s).1 = (task u).1 ∧ R (task s).2 (task u).2

/-- Two tasks that do not change the results of each other and can be swapped. -/
structure Apart (R : σ → σ → Prop) (task other : σ → α × σ) : Prop where
  result : ∀ s, (task (other s).2).1 = (task s).1
  result_other : ∀ s, (other (task s).2).1 = (other s).1
  swap : ∀ s, R (other (task s).2).2 (task (other s).2).2

/-- Tasks that all respect a relation of states, any two of them apart. -/
structure Independent (R : σ → σ → Prop) (tasks : List (σ → α × σ)) : Prop where
  equivalence : Equivalence R
  respects : ∀ task ∈ tasks, Respects R task
  apart : tasks.Pairwise (Apart R)

/-! ### One task -/

variable {tasks : List (σ → α × σ)}

/-- The state after the task with a number, if there is one. -/
def after (tasks : List (σ → α × σ)) (s : σ) (i : Nat) : σ :=
  match tasks[i]? with
  | none => s
  | some task => (task s).2

/-- The result of the task with a number, beside the number. -/
def outcome? (tasks : List (σ → α × σ)) (s : σ) (i : Nat) : Option (Nat × α) :=
  tasks[i]?.map fun task => (i, (task s).1)

theorem after_of_some {i : Nat} {task : σ → α × σ} (h : tasks[i]? = some task) (s : σ) :
    after tasks s i = (task s).2 := by
  simp [after, h]

section

variable {R : σ → σ → Prop} (h : Independent R tasks)

include h

theorem Independent.apart_of_ne {i j : Nat} {task other : σ → α × σ} (hi : tasks[i]? = some task)
    (hj : tasks[j]? = some other) (hne : i ≠ j) : Apart R task other := by
  obtain ⟨hilt, rfl⟩ := List.getElem?_eq_some_iff.1 hi
  obtain ⟨hjlt, rfl⟩ := List.getElem?_eq_some_iff.1 hj
  have hpairs := List.pairwise_iff_getElem.1 h.apart
  rcases Nat.lt_or_gt_of_ne hne with hlt | hgt
  · exact hpairs i j hilt hjlt hlt
  · have hapart := hpairs j i hjlt hilt hgt
    exact ⟨hapart.result_other, hapart.result, fun s => h.equivalence.symm (hapart.swap s)⟩

/-- A task does not change the outcome of another one. -/
theorem Independent.outcome?_after {i j : Nat} (hne : j ≠ i) (s : σ) :
    outcome? tasks (after tasks s i) j = outcome? tasks s j := by
  cases hi : tasks[i]? with
  | none => simp [after, hi]
  | some task =>
      rw [after_of_some hi]
      cases hj : tasks[j]? with
      | none => simp [outcome?, hj]
      | some other => simp [outcome?, hj, (h.apart_of_ne hj hi hne).result s]

theorem Independent.outcome?_eq {s u : σ} (hsu : R s u) (i : Nat) :
    outcome? tasks s i = outcome? tasks u i := by
  cases hi : tasks[i]? with
  | none => simp [outcome?, hi]
  | some task =>
      simp [outcome?, hi, (h.respects task (List.mem_of_getElem? hi) s u hsu).1]

theorem Independent.after_related {s u : σ} (hsu : R s u) (i : Nat) :
    R (after tasks s i) (after tasks u i) := by
  cases hi : tasks[i]? with
  | none => simpa [after, hi] using hsu
  | some task =>
      rw [after_of_some hi, after_of_some hi]
      exact (h.respects task (List.mem_of_getElem? hi) s u hsu).2

theorem Independent.after_swap (s : σ) (i j : Nat) :
    R (after tasks (after tasks s i) j) (after tasks (after tasks s j) i) := by
  by_cases hne : i = j
  · rw [hne]
    exact h.equivalence.refl _
  · cases hi : tasks[i]? with
    | none =>
        simp only [after, hi]
        exact h.equivalence.refl _
    | some task =>
        cases hj : tasks[j]? with
        | none =>
            simp only [after, hi, hj]
            exact h.equivalence.refl _
        | some other =>
            simp only [after, hi, hj]
            exact (h.apart_of_ne hi hj hne).swap s

/-! ### Many tasks -/

theorem Independent.foldl_related {s u : σ} (hsu : R s u) (order : List Nat) :
    R (order.foldl (after tasks) s) (order.foldl (after tasks) u) := by
  induction order generalizing s u with
  | nil => exact hsu
  | cons i rest ih => exact ih (h.after_related hsu i)

/-- Two orders of the same tasks lead to related states. -/
theorem Independent.foldl_perm {order order' : List Nat} (hperm : order.Perm order') (s : σ) :
    R (order.foldl (after tasks) s) (order'.foldl (after tasks) s) := by
  induction hperm generalizing s with
  | nil => exact h.equivalence.refl s
  | cons i _ ih => exact ih (after tasks s i)
  | swap i j rest => exact h.foldl_related (h.after_swap s j i) rest
  | trans _ _ ih ih' => exact h.equivalence.trans (ih s) (ih' s)

/-- Tasks have the outcomes that they would have if they came first. -/
theorem Independent.filterMap_outcome?_after {i : Nat} {order : List Nat} (hi : i ∉ order) (s : σ) :
    order.filterMap (outcome? tasks (after tasks s i)) = order.filterMap (outcome? tasks s) :=
  List.filterMap_congr fun j hj =>
    h.outcome?_after (fun heq => hi (by rw [← heq]; exact hj)) s

end

/-- Collecting leaves the state after all tasks. -/
theorem collect_state (order : List Nat) (results : List (Nat × α)) (s : σ) :
    (collect tasks order results s).2 = order.foldl (after tasks) s := by
  induction order generalizing results s with
  | nil => rfl
  | cons i rest ih =>
      rw [collect, List.foldl_cons]
      cases hi : tasks[i]? with
      | none => simpa [after, hi] using ih results s
      | some task => simpa [after, hi] using ih ((i, (task s).1) :: results) (task s).2

/-- Collecting takes the outcomes of all tasks, each as if it came first. -/
theorem Independent.collect_results {R : σ → σ → Prop} (h : Independent R tasks)
    {order : List Nat} (hnodup : order.Nodup) (results : List (Nat × α)) (s : σ) :
    (collect tasks order results s).1
      = (order.filterMap (outcome? tasks s)).reverse ++ results := by
  induction order generalizing results s with
  | nil => rfl
  | cons i rest ih =>
      obtain ⟨hi, hrest⟩ := List.nodup_cons.1 hnodup
      rw [collect, List.filterMap_cons]
      cases htask : tasks[i]? with
      | none =>
          have houtcome : outcome? tasks s i = none := by simp [outcome?, htask]
          simp only [houtcome]
          exact ih hrest results s
      | some task =>
          have houtcome : outcome? tasks s i = some (i, (task s).1) := by simp [outcome?, htask]
          have hothers := h.filterMap_outcome?_after hi s
          rw [after_of_some htask] at hothers
          simp only [houtcome]
          rw [ih hrest, hothers, List.reverse_cons, List.append_assoc, List.singleton_append]

/-! ### Two schedules -/

/-- Outcomes differ in their numbers. -/
theorem eq_of_mem_outcomes {order : List Nat} {s : σ} {a b : Nat × α}
    (ha : a ∈ order.filterMap (outcome? tasks s)) (hb : b ∈ order.filterMap (outcome? tasks s))
    (hab : a.1 = b.1) : a = b := by
  obtain ⟨i, -, hi⟩ := List.mem_filterMap.1 ha
  obtain ⟨j, -, hj⟩ := List.mem_filterMap.1 hb
  obtain ⟨task, htask, rfl⟩ := Option.map_eq_some_iff.1 hi
  obtain ⟨other, hother, rfl⟩ := Option.map_eq_some_iff.1 hj
  dsimp only at hab
  subst hab
  rw [htask] at hother
  rw [Option.some.inj hother]

/-- Independent tasks have the same results under all schedules, and lead to related states. -/
theorem Independent.run_agree {R : σ → σ → Prop} (h : Independent R tasks)
    (schedule schedule' : Schedule) {s u : σ} (hsu : R s u) :
    (schedule.run tasks s).1 = (schedule'.run tasks u).1 ∧
      R (schedule.run tasks s).2 (schedule'.run tasks u).2 := by
  have hperm := (schedule.perm tasks.length).trans (schedule'.perm tasks.length).symm
  have hnodup : (schedule.order tasks.length).Nodup :=
    (schedule.perm tasks.length).nodup_iff.2 List.nodup_range
  have hnodup' := hperm.nodup_iff.1 hnodup
  constructor
  · show List.map _ (List.mergeSort _ _) = List.map _ (List.mergeSort _ _)
    rw [h.collect_results hnodup, h.collect_results hnodup', List.append_nil, List.append_nil,
      ← (funext fun i => h.outcome?_eq hsu i : outcome? tasks s = outcome? tasks u)]
    congr 1
    apply mergeSort_numbers_eq_of_perm
    · intro a ha b hb hab
      exact eq_of_mem_outcomes (List.mem_reverse.1 ha) (List.mem_reverse.1 hb) hab
    · exact (List.reverse_perm _).trans
        ((hperm.filterMap _).trans (List.reverse_perm _).symm)
  · show R (collect _ _ _ _).2 (collect _ _ _ _).2
    rw [collect_state, collect_state]
    exact h.equivalence.trans (h.foldl_perm hperm s) (h.foldl_related hsu _)

theorem foldl_after_range (tasks : List (σ → α × σ)) (s : σ) :
    (List.range tasks.length).foldl (after tasks) s = tasks.foldl (fun s task => (task s).2) s := by
  induction tasks generalizing s with
  | nil => rfl
  | cons task tasks ih =>
      rw [List.length_cons, List.range_succ_eq_map, List.foldl_cons, List.foldl_cons, List.foldl_map]
      exact ih (task s).2

/-- Independent tasks lead to the state that they lead to one after the other. -/
theorem Independent.run_state (h : Independent Eq tasks) (schedule : Schedule) (s : σ) :
    (schedule.run tasks s).2 = tasks.foldl (fun s task => (task s).2) s := by
  rw [(h.run_agree schedule sequential rfl).2]
  exact (collect_state _ [] s).trans (foldl_after_range tasks s)

/-! ### Results -/

theorem mem_collect {order : List Nat} {results : List (Nat × α)} {s : σ} {a : Nat × α}
    (h : a ∈ (collect tasks order results s).1) :
    a ∈ results ∨ ∃ task ∈ tasks, ∃ u, a.2 = (task u).1 := by
  induction order generalizing results s with
  | nil => exact Or.inl h
  | cons i rest ih =>
      rw [collect] at h
      cases htask : tasks[i]? with
      | none =>
          rw [htask] at h
          exact ih h
      | some task =>
          rw [htask] at h
          rcases ih h with hmem | hlater
          · rcases List.mem_cons.1 hmem with rfl | hold
            · exact Or.inr ⟨task, List.mem_of_getElem? htask, s, rfl⟩
            · exact Or.inl hold
          · exact Or.inr hlater

/-- Every result is the result of a task. -/
theorem exists_of_mem_run {schedule : Schedule} {s : σ} {a : α}
    (h : a ∈ (schedule.run tasks s).1) : ∃ task ∈ tasks, ∃ u, a = (task u).1 := by
  obtain ⟨b, hb, rfl⟩ := List.mem_map.1 h
  rcases mem_collect (List.mem_mergeSort.1 hb) with hnil | htask
  · cases hnil
  · exact htask

/-! ### What tasks leave behind -/

/-- What every task keeps is kept by all of them together. -/
theorem run_keeps {I : σ → Prop} (hkeep : ∀ task ∈ tasks, ∀ s, I s → I (task s).2)
    (schedule : Schedule) {s : σ} (hs : I s) : I (schedule.run tasks s).2 := by
  have hcollect : ∀ (order : List Nat) (results : List (Nat × α)) (s : σ), I s →
      I (collect tasks order results s).2 := by
    intro order
    induction order with
    | nil => exact fun _ _ h => h
    | cons i rest ih =>
        intro results s h
        rw [collect]
        cases htask : tasks[i]? with
        | none => exact ih results s h
        | some task => exact ih _ _ (hkeep task (List.mem_of_getElem? htask) s h)
  exact hcollect _ [] s hs

section

variable {κ : Type} {keys : List κ} {task : κ → σ → α × σ} {P : κ → α → σ → Prop}

/-- Each task leaves something behind that goes with its result, and the others keep it. -/
structure Leaves (P : κ → α → σ → Prop) (keys : List κ) (task : κ → σ → α × σ) : Prop where
  done : ∀ k ∈ keys, ∀ s, P k (task k s).1 (task k s).2
  kept : keys.Pairwise fun k k' =>
    ∀ a s, (P k a s → P k a (task k' s).2) ∧ (P k' a s → P k' a (task k s).2)

theorem Leaves.kept_of_ne (h : Leaves P keys task) {i j : Nat} {k k' : κ} (hi : keys[i]? = some k)
    (hj : keys[j]? = some k') (hne : i ≠ j) {a : α} {s : σ} (hk : P k a s) :
    P k a (task k' s).2 := by
  obtain ⟨hilt, rfl⟩ := List.getElem?_eq_some_iff.1 hi
  obtain ⟨hjlt, rfl⟩ := List.getElem?_eq_some_iff.1 hj
  have hpairs := List.pairwise_iff_getElem.1 h.kept
  rcases Nat.lt_or_gt_of_ne hne with hlt | hgt
  · exact (hpairs i j hilt hjlt hlt a s).1 hk
  · exact (hpairs j i hjlt hilt hgt a s).2 hk

/-- What goes with the results so far is kept while further tasks run. -/
theorem Leaves.kept_by_collect (h : Leaves P keys task) {order : List Nat} {results : List (Nat × α)}
    (s : σ) (hnodup : order.Nodup) (hnew : ∀ i ∈ order, i ∉ results.map Prod.fst)
    (hresults : ∀ r ∈ results, ∃ k, keys[r.1]? = some k ∧ P k r.2 s) :
    ∀ r ∈ (collect (keys.map task) order results s).1,
      ∃ k, keys[r.1]? = some k ∧ P k r.2 (collect (keys.map task) order results s).2 := by
  induction order generalizing results s with
  | nil => exact hresults
  | cons i rest ih =>
      obtain ⟨hi, hrest⟩ := List.nodup_cons.1 hnodup
      have hnewRest : ∀ j ∈ rest, j ∉ results.map Prod.fst :=
        fun j hj => hnew j (List.mem_cons_of_mem i hj)
      rw [collect, List.getElem?_map]
      cases hk : keys[i]? with
      | none => exact ih s hrest hnewRest hresults
      | some k =>
          refine ih _ hrest ?_ ?_
          · intro j hj hmem
            rcases List.mem_cons.1 hmem with heq | hold
            · have hji : j = i := heq
              exact hi (hji ▸ hj)
            · exact hnewRest j hj hold
          · intro r hr
            rcases List.mem_cons.1 hr with rfl | hold
            · exact ⟨k, hk, h.done k (List.mem_of_getElem? hk) s⟩
            · obtain ⟨k', hk', hdone⟩ := hresults r hold
              have hne : r.1 ≠ i := by
                intro heq
                exact hnew i List.mem_cons_self (heq ▸ List.mem_map_of_mem hold)
              exact ⟨k', hk', h.kept_of_ne hk' hk hne hdone⟩

/-- The results are numbered like the tasks that ran. -/
theorem map_fst_collect (tasks : List (σ → α × σ)) {order : List Nat}
    (horder : ∀ i ∈ order, i < tasks.length) (results : List (Nat × α)) (s : σ) :
    (collect tasks order results s).1.map Prod.fst = order.reverse ++ results.map Prod.fst := by
  induction order generalizing results s with
  | nil => rfl
  | cons i rest ih =>
      have hi := horder i List.mem_cons_self
      rw [collect, List.getElem?_eq_getElem hi]
      dsimp only
      rw [ih fun j hj => horder j (List.mem_cons_of_mem i hj)]
      simp

/-- The results in the order of the tasks are numbered from zero on. -/
theorem map_fst_sorted (schedule : Schedule) (tasks : List (σ → α × σ)) (s : σ) :
    ((collect tasks (schedule.order tasks.length) [] s).1.mergeSort
      fun a b => a.1 ≤ b.1).map Prod.fst = List.range tasks.length := by
  have hperm := schedule.perm tasks.length
  have horder : ∀ i ∈ schedule.order tasks.length, i < tasks.length :=
    fun i hi => List.mem_range.1 (hperm.mem_iff.1 hi)
  have hnumbers := map_fst_collect tasks horder [] s
  rw [List.map_nil, List.append_nil] at hnumbers
  generalize (collect tasks (schedule.order tasks.length) [] s).1 = results at hnumbers
  have hsorted : (results.mergeSort fun a b => a.1 ≤ b.1).Pairwise
      fun a b => decide (a.1 ≤ b.1) = true :=
    List.pairwise_mergeSort number_le_trans number_le_total results
  refine List.Perm.eq_of_pairwise (fun a b _ _ hab hba => Nat.le_antisymm hab hba) ?_ ?_ ?_
  · rw [List.pairwise_map]
    exact hsorted.imp of_decide_eq_true
  · exact List.pairwise_lt_range.imp Nat.le_of_lt
  · have hall := (List.mergeSort_perm results fun a b => decide (a.1 ≤ b.1)).map Prod.fst
    rw [hnumbers] at hall
    exact hall.trans ((List.reverse_perm _).trans hperm)

/-- When all tasks have run, what each left behind is still there. -/
theorem Leaves.run (h : Leaves P keys task) (schedule : Schedule) (s : σ) :
    List.Forall₂ (fun k a => P k a (schedule.run (keys.map task) s).2) keys
      (schedule.run (keys.map task) s).1 := by
  have hperm := schedule.perm (keys.map task).length
  have hnumbers := map_fst_sorted schedule (keys.map task) s
  have hleft := h.kept_by_collect s (hperm.nodup_iff.2 List.nodup_range)
    (fun _ _ hmem => List.not_mem_nil hmem) (fun _ hr => (List.not_mem_nil hr).elim)
  unfold Schedule.run
  dsimp only
  generalize collect (keys.map task) (schedule.order (keys.map task).length) [] s = collected
    at hnumbers hleft
  have hlength := congrArg List.length hnumbers
  rw [List.length_map, List.length_range, List.length_map] at hlength
  refine List.forall₂_iff_get.2 ⟨by rw [List.length_map, hlength], ?_⟩
  intro i hi hi'
  rw [List.length_map] at hi'
  have hmem := List.mem_mergeSort.1 (List.getElem_mem hi')
  obtain ⟨k, hk, hP⟩ := hleft _ hmem
  have hnumber : ((collected.1.mergeSort fun a b => a.1 ≤ b.1)[i]).1 = i := by
    have hget := List.getElem_of_eq hnumbers (by rw [List.length_map]; exact hi')
    rw [List.getElem_map, List.getElem_range] at hget
    exact hget
  rw [hnumber, List.getElem?_eq_getElem hi] at hk
  rw [List.get_eq_getElem, List.get_eq_getElem, List.getElem_map, Option.some.inj hk]
  exact hP

/-- Tasks whose results depend on a part of the state that none of them changes have the same results
together. -/
theorem run_results_of_kept {β : Type} (seen : σ → β) (result : β → κ → α)
    (hkept : ∀ k ∈ keys, ∀ s, seen (task k s).2 = seen s)
    (h : ∀ k ∈ keys, ∀ s, (task k s).1 = result (seen s) k) (schedule : Schedule) (s : σ) :
    (schedule.run (keys.map task) s).1 = keys.map (result (seen s)) := by
  have hleaves : Leaves (fun k a u => seen u = seen s → a = result (seen s) k) keys task := by
    refine ⟨fun k hk u hu => ?_, ?_⟩
    · rw [← hu, hkept k hk u]
      exact h k hk u
    · refine List.Pairwise.imp_of_mem ?_ (List.pairwise_of_forall (R := fun _ _ => True)
        fun _ _ => trivial)
      intro k k' hk hk' _ a u
      rw [hkept k hk u, hkept k' hk' u]
      exact ⟨id, id⟩
  have hseen : seen (schedule.run (keys.map task) s).2 = seen s := by
    refine run_keeps (I := fun u => seen u = seen s) (fun t ht u hu => ?_) schedule rfl
    obtain ⟨k, hk, rfl⟩ := List.mem_map.1 ht
    exact (hkept k hk u).trans hu
  symm
  rw [← List.forall₂_eq_eq_eq, List.forall₂_map_left_iff]
  exact (hleaves.run schedule s).imp fun _ _ hresult => (hresult hseen).symm

/-- Tasks whose results do not depend on the state have the same results together. -/
theorem run_results (task : κ → σ → α × σ) (result : κ → α)
    (h : ∀ k ∈ keys, ∀ s, (task k s).1 = result k) (schedule : Schedule) (s : σ) :
    (schedule.run (keys.map task) s).1 = keys.map result :=
  run_results_of_kept (fun _ => ()) (fun _ => result) (fun _ _ _ => rfl) h schedule s

end

end LedgerMatch.Schedule
