import LedgerMatch.Path.Order
import LedgerMatch.Proofs.Common
import LedgerMatch.Staging.Query

/-!
# The order of rows

Rows are ordered by identifier and then by number, so that no two rows of a table with numbers of
their own are equal in the order. Sorting then has one result for all orders of a list, and it does
not matter whether rows are sorted before or after some of them are picked.
-/

namespace LedgerMatch

/-! ### Texts, then numbers -/

/-- Ordered by a text and then by a number. -/
def textNumberLe (s t : String) (i j : Nat) : Bool := s < t || (s == t && i ≤ j)

theorem textNumberLe_iff {s t : String} {i j : Nat} :
    textNumberLe s t i j = true ↔ s < t ∨ (s = t ∧ i ≤ j) := by
  simp [textNumberLe]

theorem textNumberLe_trans {s t u : String} {i j k : Nat} (h : textNumberLe s t i j = true)
    (h' : textNumberLe t u j k = true) : textNumberLe s u i k = true := by
  rw [textNumberLe_iff] at h h' ⊢
  rcases h with hst | ⟨rfl, hij⟩
  · rcases h' with htu | ⟨rfl, -⟩
    · exact Or.inl (String.lt_trans hst htu)
    · exact Or.inl hst
  · rcases h' with htu | ⟨rfl, hjk⟩
    · exact Or.inl htu
    · exact Or.inr ⟨rfl, Nat.le_trans hij hjk⟩

theorem textNumberLe_total (s t : String) (i j : Nat) :
    (textNumberLe s t i j || textNumberLe t s j i) = true := by
  rw [Bool.or_eq_true, textNumberLe_iff, textNumberLe_iff]
  rcases text_lt_or_eq_or_gt s t with h | rfl | h
  · exact Or.inl (Or.inl h)
  · rcases Nat.le_total i j with hij | hji
    · exact Or.inl (Or.inr ⟨rfl, hij⟩)
    · exact Or.inr (Or.inr ⟨rfl, hji⟩)
  · exact Or.inr (Or.inl h)

theorem eq_of_textNumberLe {s t : String} {i j : Nat} (h : textNumberLe s t i j = true)
    (h' : textNumberLe t s j i = true) : i = j := by
  rw [textNumberLe_iff] at h h'
  rcases h with hst | ⟨rfl, hij⟩
  · rcases h' with hts | ⟨rfl, -⟩
    · exact (String.lt_asymm hst hts).elim
    · exact (String.lt_irrefl _ hst).elim
  · rcases h' with hlt | ⟨-, hji⟩
    · exact (String.lt_irrefl _ hlt).elim
    · exact Nat.le_antisymm hij hji

theorem text_le_of_textNumberLe {s t : String} {i j : Nat} (h : textNumberLe s t i j = true) :
    s ≤ t := by
  rcases textNumberLe_iff.1 h with hlt | ⟨rfl, -⟩
  · exact String.not_lt.1 (String.lt_asymm hlt)
  · exact String.le_refl s

theorem LedgerRow.le_trans (a b c : LedgerRow) : a.le b = true → b.le c = true → a.le c = true :=
  textNumberLe_trans

theorem LedgerRow.le_total (a b : LedgerRow) : (a.le b || b.le a) = true :=
  textNumberLe_total a.id b.id a.number b.number

theorem LedgerRow.number_eq_of_le {a b : LedgerRow} (h : a.le b = true) (h' : b.le a = true) :
    a.number = b.number :=
  eq_of_textNumberLe h h'

theorem LedgerRow.id_le_of_le {a b : LedgerRow} (h : a.le b = true) : a.id ≤ b.id :=
  text_le_of_textNumberLe h

theorem StatementRow.le_trans (a b c : StatementRow) :
    a.le b = true → b.le c = true → a.le c = true :=
  textNumberLe_trans

theorem StatementRow.le_total (a b : StatementRow) : (a.le b || b.le a) = true :=
  textNumberLe_total a.id b.id a.number b.number

theorem StatementRow.number_eq_of_le {a b : StatementRow} (h : a.le b = true)
    (h' : b.le a = true) : a.number = b.number :=
  eq_of_textNumberLe h h'

theorem StatementRow.id_le_of_le {a b : StatementRow} (h : a.le b = true) : a.id ≤ b.id :=
  text_le_of_textNumberLe h

/-! ### Banks, then texts, then numbers -/

theorem Tables.bankLe_iff {a b : StatementRow} :
    bankLe a b = true ↔ a.bank < b.bank ∨ (a.bank = b.bank ∧ a.le b = true) := by
  simp [bankLe]

theorem Tables.bankLe_trans (a b c : StatementRow) (h : bankLe a b = true)
    (h' : bankLe b c = true) : bankLe a c = true := by
  rw [bankLe_iff] at h h' ⊢
  rcases h with hab | ⟨hab, hle⟩
  · rcases h' with hbc | ⟨hbc, -⟩
    · exact Or.inl (String.lt_trans hab hbc)
    · exact Or.inl (hbc ▸ hab)
  · rcases h' with hbc | ⟨hbc, hle'⟩
    · exact Or.inl (hab ▸ hbc)
    · exact Or.inr ⟨hab.trans hbc, a.le_trans b c hle hle'⟩

theorem Tables.bankLe_total (a b : StatementRow) : (bankLe a b || bankLe b a) = true := by
  rw [Bool.or_eq_true, bankLe_iff, bankLe_iff]
  rcases text_lt_or_eq_or_gt a.bank b.bank with hlt | heq | hgt
  · exact Or.inl (Or.inl hlt)
  · rcases Bool.or_eq_true_iff.1 (a.le_total b) with hle | hle
    · exact Or.inl (Or.inr ⟨heq, hle⟩)
    · exact Or.inr (Or.inr ⟨heq.symm, hle⟩)
  · exact Or.inr (Or.inl hgt)

end LedgerMatch
