import LedgerMatch.Path

/-!
# The order of paths

Paths are ordered strictly by their components, and two paths of which neither is before the other
are the same.
-/

namespace LedgerMatch

/-- One text is before, behind or the same as another. -/
theorem text_lt_or_eq_or_gt (s t : String) : s < t ∨ s = t ∨ t < s := by
  by_cases hst : s < t
  · exact Or.inl hst
  · by_cases hts : t < s
    · exact Or.inr (Or.inr hts)
    · exact Or.inr (Or.inl (String.le_antisymm (String.not_lt.1 hts) (String.not_lt.1 hst)))

/-! ### Components -/

namespace PathComponent

theorem lt_iff {a b : PathComponent} :
    a.lt b = true ↔ a.rank.1 < b.rank.1 ∨ (a.rank.1 = b.rank.1 ∧ a.rank.2 < b.rank.2) := by
  simp [lt]

theorem rank_injective {a b : PathComponent} (h : a.rank = b.rank) : a = b := by
  cases a <;> cases b <;> simp_all [rank]

theorem lt_irrefl (a : PathComponent) : a.lt a = false := by
  rw [← Bool.not_eq_true, lt_iff]
  rintro (h | ⟨-, h⟩)
  · exact Nat.lt_irrefl _ h
  · exact String.lt_irrefl _ h

theorem lt_trans {a b c : PathComponent} (hab : a.lt b = true) (hbc : b.lt c = true) :
    a.lt c = true := by
  rw [lt_iff] at *
  rcases hab with hab | ⟨hab, htext⟩
  · rcases hbc with hbc | ⟨hbc, -⟩
    · exact Or.inl (Nat.lt_trans hab hbc)
    · exact Or.inl (hbc ▸ hab)
  · rcases hbc with hbc | ⟨hbc, htext'⟩
    · exact Or.inl (hab ▸ hbc)
    · exact Or.inr ⟨hab.trans hbc, String.lt_trans htext htext'⟩

theorem lt_or_eq_or_gt (a b : PathComponent) : a.lt b = true ∨ a = b ∨ b.lt a = true := by
  rw [lt_iff, lt_iff]
  rcases Nat.lt_trichotomy a.rank.1 b.rank.1 with h | h | h
  · exact Or.inl (Or.inl h)
  · rcases text_lt_or_eq_or_gt a.rank.2 b.rank.2 with h' | h' | h'
    · exact Or.inl (Or.inr ⟨h, h'⟩)
    · exact Or.inr (Or.inl (rank_injective (Prod.ext h h')))
    · exact Or.inr (Or.inr (Or.inr ⟨h.symm, h'⟩))
  · exact Or.inr (Or.inr (Or.inl h))

end PathComponent

/-! ### Paths -/

namespace Path

theorem ltComponents_cons {a b : PathComponent} {as bs : List PathComponent} :
    ltComponents (a :: as) (b :: bs) = true ↔
      a.lt b = true ∨ (a = b ∧ ltComponents as bs = true) := by
  simp [ltComponents]

theorem ltComponents_irrefl (as : List PathComponent) : ltComponents as as = false := by
  induction as with
  | nil => rfl
  | cons a as ih => simp [ltComponents, ih, PathComponent.lt_irrefl]

theorem ltComponents_trans {as bs cs : List PathComponent} (hab : ltComponents as bs = true)
    (hbc : ltComponents bs cs = true) : ltComponents as cs = true := by
  induction as generalizing bs cs with
  | nil =>
      cases cs with
      | nil => simp [ltComponents] at hbc
      | cons c cs => rfl
  | cons a as ih =>
      cases bs with
      | nil => simp [ltComponents] at hab
      | cons b bs =>
          cases cs with
          | nil => simp [ltComponents] at hbc
          | cons c cs =>
              rw [ltComponents_cons] at *
              rcases hab with hab | ⟨rfl, hab⟩
              · rcases hbc with hbc | ⟨rfl, -⟩
                · exact Or.inl (PathComponent.lt_trans hab hbc)
                · exact Or.inl hab
              · rcases hbc with hbc | ⟨rfl, hbc⟩
                · exact Or.inl hbc
                · exact Or.inr ⟨rfl, ih hab hbc⟩

theorem ltComponents_or_eq_or_gt (as bs : List PathComponent) :
    ltComponents as bs = true ∨ as = bs ∨ ltComponents bs as = true := by
  induction as generalizing bs with
  | nil =>
      cases bs with
      | nil => exact Or.inr (Or.inl rfl)
      | cons b bs => exact Or.inl rfl
  | cons a as ih =>
      cases bs with
      | nil => exact Or.inr (Or.inr rfl)
      | cons b bs =>
          rw [ltComponents_cons, ltComponents_cons]
          rcases PathComponent.lt_or_eq_or_gt a b with h | rfl | h
          · exact Or.inl (Or.inl h)
          · rcases ih bs with h | rfl | h
            · exact Or.inl (Or.inr ⟨rfl, h⟩)
            · exact Or.inr (Or.inl rfl)
            · exact Or.inr (Or.inr (Or.inr ⟨rfl, h⟩))
          · exact Or.inr (Or.inr (Or.inl h))

variable {p q r : Path}

theorem same_iff : p.same q = true ↔ p.components = q.components := by
  simp [same]

theorem lt_trans (hpq : p.lt q = true) (hqr : q.lt r = true) : p.lt r = true :=
  ltComponents_trans hpq hqr

theorem not_lt_of_lt (h : p.lt q = true) : q.lt p = false := by
  rw [← Bool.not_eq_true]
  intro h'
  have hself : p.lt p = true := lt_trans h h'
  rw [lt, ltComponents_irrefl] at hself
  cases hself

theorem not_same_of_lt (h : p.lt q = true) : p.same q = false := by
  rw [← Bool.not_eq_true, same_iff]
  intro heq
  rw [lt, heq, ltComponents_irrefl] at h
  cases h

theorem same_comm (p q : Path) : p.same q = q.same p := by
  simp only [same, Bool.beq_comm]

theorem lt_of_not_same_of_not_lt (hsame : p.same q = false) (hlt : p.lt q = false) :
    q.lt p = true := by
  rcases ltComponents_or_eq_or_gt p.components q.components with h | h | h
  · rw [lt, h] at hlt
    cases hlt
  · rw [same_iff.2 h] at hsame
    cases hsame
  · exact h

/-- The same paths have one place in the order. -/
theorem lt_congr_left (h : p.same q = true) (r : Path) : p.lt r = q.lt r := by
  rw [lt, lt, same_iff.1 h]

/-- A path is the same as another one, or before or behind it. -/
theorem same_or_lt_or_gt (p r : Path) : p.same r = true ∨ p.lt r = true ∨ r.lt p = true := by
  cases hsame : p.same r with
  | true => exact Or.inl rfl
  | false =>
      cases hlt : p.lt r with
      | true => exact Or.inr (Or.inl rfl)
      | false => exact Or.inr (Or.inr (lt_of_not_same_of_not_lt hsame hlt))

end Path

end LedgerMatch
