/-!
# Cutting texts

A text is cut at every character of a class. The pieces hold no such character, and there is one
piece more than there were cuts.
-/

namespace LedgerMatch.Text

/-- The pieces of a text between the characters of a class. -/
def cut (p : Char → Bool) : List Char → List (List Char)
  | [] => [[]]
  | c :: cs =>
      match cut p cs with
      | [] => [[]]
      | piece :: pieces => if p c then [] :: piece :: pieces else (c :: piece) :: pieces

theorem cut_ne_nil (p : Char → Bool) (cs : List Char) : cut p cs ≠ [] := by
  cases cs with
  | nil => simp [cut]
  | cons c cs =>
      simp only [cut]
      split
      · simp
      · split <;> simp

theorem cut_of_none {p : Char → Bool} {cs : List Char} (h : ∀ c ∈ cs, p c = false) :
    cut p cs = [cs] := by
  induction cs with
  | nil => rfl
  | cons c cs ih =>
      have h' := ih fun d hd => h d (by simp [hd])
      simp [cut, h', h c (by simp)]

/-- A text is cut at each of its cuts into what is cut in front of it and what is cut behind. -/
theorem cut_append_cons {p : Char → Bool} {c : Char} (hc : p c = true) (cs rest : List Char) :
    cut p (cs ++ c :: rest) = cut p cs ++ cut p rest := by
  induction cs with
  | nil =>
      rw [List.nil_append, cut, cut, List.singleton_append]
      cases hcut : cut p rest with
      | nil => exact (cut_ne_nil _ _ hcut).elim
      | cons piece pieces => simp [hc]
  | cons d cs ih =>
      rw [List.cons_append, cut, ih, cut]
      cases hcut : cut p cs with
      | nil => exact (cut_ne_nil _ _ hcut).elim
      | cons piece pieces =>
          simp only [List.cons_append]
          split <;> rfl

/-- A text is one piece without a cut, or it has a last cut and a last piece behind it. -/
theorem cut_cases (p : Char → Bool) (cs : List Char) :
    ((∀ c ∈ cs, p c = false) ∧ cut p cs = [cs]) ∨
      ∃ front c last, cs = front ++ c :: last ∧ p c = true ∧ (∀ d ∈ last, p d = false) ∧
        cut p cs = cut p front ++ [last] := by
  suffices h : (∀ c ∈ cs, p c = false) ∨
      ∃ front c last, cs = front ++ c :: last ∧ p c = true ∧ ∀ d ∈ last, p d = false by
    rcases h with hnone | ⟨front, c, last, rfl, hc, hlast⟩
    · exact Or.inl ⟨hnone, cut_of_none hnone⟩
    · exact Or.inr ⟨front, c, last, rfl, hc, hlast,
        by rw [cut_append_cons hc, cut_of_none hlast]⟩
  induction cs with
  | nil => exact Or.inl fun c hc => nomatch hc
  | cons c cs ih =>
      rcases ih with hnone | ⟨front, d, last, rfl, hd, hlast⟩
      · cases hc : p c with
        | true => exact Or.inr ⟨[], c, cs, rfl, hc, hnone⟩
        | false => exact Or.inl (List.forall_mem_cons.2 ⟨hc, hnone⟩)
      · exact Or.inr ⟨c :: front, d, last, rfl, hd, hlast⟩

end LedgerMatch.Text
