import LedgerMatch.Text.Blank
import LedgerMatch.Text.Numeral
import Mathlib.Data.List.Lex
import Mathlib.Data.String.Basic

/-!
# Rows of digits

A row of digits is shorter than the power of ten that it stays below, holds no blank, and two rows
of one length are in the order of the numbers that they denote.
-/

namespace LedgerMatch

-- Powers of whole numbers are the core ones, whatever else is imported.
attribute [local instance (2000)] instPowNat

namespace Text

/-! ### Digits -/

theorem digitValue?_of_isDigit {c : Char} (h : isDigit c = true) :
    digitValue? c = some (c.toNat - 48) := by
  unfold isDigit digitValue? at *
  split at h
  · next hc => rw [if_pos hc]
  · cases h

theorem isDigit_of_mem_numeral {n : Nat} {c : Char} (h : c ∈ numeral n) : isDigit c = true := by
  have hdigit := Nat.isDigit_of_mem_toDigits (by decide) (by decide) h
  have hrange : '0' ≤ c ∧ c ≤ '9' := by
    simpa [Char.isDigit, Char.le_def, UInt32.le_iff_toNat_le] using hdigit
  simp [isDigit, digitValue?, hrange]

theorem isDigit_of_mem_paddedNumeral {width n : Nat} {c : Char} (h : c ∈ paddedNumeral width n) :
    isDigit c = true := by
  rcases List.mem_append.1 h with hzero | hdigit
  · rw [List.eq_of_mem_replicate hzero]
    decide
  · exact isDigit_of_mem_numeral hdigit

theorem isBlank_of_isDigit {c : Char} (h : isDigit c = true) : isBlank c = false := by
  rw [isDigit, digitValue?] at h
  split at h
  · next hc =>
      simp only [Char.le_def, UInt32.le_iff_toNat_le] at hc
      have hrange : 48 ≤ c.toNat ∧ c.toNat ≤ 57 := hc
      simp only [isBlank, blankRanges, List.any_cons, List.any_nil, Bool.or_false, Bool.or_eq_false_iff,
        Bool.and_eq_false_iff, decide_eq_false_iff_not]
      omega
  · cases h

/-- Nothing is skipped where there is no leading blank. -/
theorem skipBlanks_of_head {cs : List Char} (h : ∀ c ∈ cs.head?, isBlank c = false) :
    skipBlanks cs = cs := by
  cases cs with
  | nil => rfl
  | cons c rest => exact List.dropWhile_cons_of_neg (by simp [h c rfl])

/-- A text without a blank at either end is not changed by trimming. -/
theorem trim_of_ends {s : String} (hfirst : ∀ c ∈ s.toList.head?, isBlank c = false)
    (hlast : ∀ c ∈ s.toList.getLast?, isBlank c = false) : trim s = s := by
  rw [List.getLast?_eq_head?_reverse] at hlast
  rw [trim, trimChars, skipBlanks_of_head hfirst, skipBlanks_of_head hlast, List.reverse_reverse,
    String.ofList_toList]

/-- A text without blanks is not changed by trimming. -/
theorem trim_of_not_blank {s : String} (h : ∀ c ∈ s.toList, isBlank c = false) : trim s = s :=
  trim_of_ends (fun c hc => h c (List.mem_of_mem_head? hc))
    fun c hc => h c (List.mem_of_mem_getLast? hc)

theorem foldl_pushDigit (i : Nat) (cs : List Char) :
    cs.foldl pushDigit i = i * 10 ^ cs.length + digitsValue cs := by
  induction cs generalizing i with
  | nil => simp [digitsValue]
  | cons c cs ih =>
      rw [digitsValue, List.foldl_cons, List.foldl_cons, ih, ih (pushDigit 0 c)]
      simp only [pushDigit, List.length_cons, Nat.pow_succ]
      grind

theorem le_foldl_pushDigit (i : Nat) (cs : List Char) : i ≤ cs.foldl pushDigit i := by
  rw [foldl_pushDigit]
  exact Nat.le_trans (Nat.le_mul_of_pos_right i (Nat.pow_pos (by decide))) (Nat.le_add_right _ _)

theorem paddedNumeral_ne_nil (width n : Nat) : paddedNumeral width n ≠ [] := by
  rw [paddedNumeral]
  simp [numeral_ne_nil]

/-- What begins with a padded numeral begins with a digit. -/
theorem isDigit_of_head_paddedNumeral {width n : Nat} {rest : List Char} {c : Char}
    (h : c ∈ (paddedNumeral width n ++ rest).head?) : isDigit c = true := by
  rw [List.head?_append_of_ne_nil _ (paddedNumeral_ne_nil width n)] at h
  exact isDigit_of_mem_paddedNumeral (List.mem_of_mem_head? h)

/-- What ends with a padded numeral behind a mark ends with a digit. -/
theorem isDigit_of_last_paddedNumeral {front : List Char} {mark : Char} {width n : Nat} {c : Char}
    (h : c ∈ (front ++ mark :: paddedNumeral width n).getLast?) : isDigit c = true := by
  rw [List.append_cons, List.getLast?_append_of_ne_nil _ (paddedNumeral_ne_nil width n)] at h
  exact isDigit_of_mem_paddedNumeral (List.mem_of_mem_getLast? h)

theorem length_paddedNumeral {width n : Nat} (hwidth : 0 < width) (h : n < 10 ^ width) :
    (paddedNumeral width n).length = width := by
  have hle : (numeral n).length ≤ width := (Nat.length_toDigits_le_iff (by decide) hwidth).2 h
  rw [paddedNumeral, List.length_append, List.length_replicate]
  omega

/-! ### Values -/

theorem digitsValue_cons (c : Char) (cs : List Char) :
    digitsValue (c :: cs) = (c.toNat - 48) * 10 ^ cs.length + digitsValue cs := by
  have h := foldl_pushDigit (c.toNat - 48) cs
  rw [digitsValue, List.foldl_cons, ← h]
  simp [pushDigit]

theorem toNat_of_isDigit {c : Char} (h : isDigit c = true) : 48 ≤ c.toNat ∧ c.toNat ≤ 57 := by
  rw [isDigit, digitValue?] at h
  split at h
  · next hc => exact hc
  · cases h

theorem digitsValue_lt {cs : List Char} (h : ∀ c ∈ cs, isDigit c = true) :
    digitsValue cs < 10 ^ cs.length := by
  induction cs with
  | nil => decide
  | cons c cs ih =>
      have hrest := ih fun d hd => h d (List.mem_cons_of_mem _ hd)
      have hc := toNat_of_isDigit (h c List.mem_cons_self)
      have hle : (c.toNat - 48) * 10 ^ cs.length ≤ 9 * 10 ^ cs.length :=
        Nat.mul_le_mul_right _ (by omega)
      rw [digitsValue_cons, List.length_cons, Nat.pow_succ]
      omega

theorem number?_eq_some {cs : List Char} {n : Nat} :
    number? cs = some n ↔ cs ≠ [] ∧ (∀ c ∈ cs, isDigit c = true) ∧ n = digitsValue cs := by
  rw [number?, Option.ite_none_right_eq_some, Option.some.injEq, List.all_eq_true, and_assoc,
    eq_comm (a := n)]

/-! ### Order -/

/-- The first difference decides, whatever follows. -/
theorem append_lt_append {cs ds : List Char} (hlength : cs.length = ds.length) (h : cs < ds)
    (us vs : List Char) : cs ++ us < ds ++ vs := by
  induction cs generalizing ds with
  | nil =>
      rw [List.length_eq_zero_iff.1 hlength.symm] at h
      exact (List.lt_irrefl _ h).elim
  | cons c cs ih =>
      cases ds with
      | nil => cases hlength
      | cons d ds =>
          rw [List.cons_append, List.cons_append, List.cons_lt_cons_iff]
          rcases List.cons_lt_cons_iff.1 h with hlt | ⟨rfl, hlt⟩
          · exact Or.inl hlt
          · exact Or.inr ⟨rfl, ih (Nat.succ.inj hlength) hlt⟩

/-- Rows of digits of one length are ordered by their values. -/
theorem lt_of_digitsValue_lt {cs ds : List Char} (hlength : cs.length = ds.length)
    (hcs : ∀ c ∈ cs, isDigit c = true) (hds : ∀ d ∈ ds, isDigit d = true)
    (h : digitsValue cs < digitsValue ds) : cs < ds := by
  induction cs generalizing ds with
  | nil =>
      rw [List.length_eq_zero_iff.1 hlength.symm] at h
      exact (Nat.lt_irrefl _ h).elim
  | cons c cs ih =>
      cases ds with
      | nil => cases hlength
      | cons d ds =>
          have hrest := Nat.succ.inj hlength
          have hcs' : ∀ x ∈ cs, isDigit x = true := fun x hx => hcs x (List.mem_cons_of_mem _ hx)
          have hds' : ∀ x ∈ ds, isDigit x = true := fun x hx => hds x (List.mem_cons_of_mem _ hx)
          have hc := toNat_of_isDigit (hcs c List.mem_cons_self)
          have hd := toNat_of_isDigit (hds d List.mem_cons_self)
          rw [digitsValue_cons, digitsValue_cons, hrest] at h
          rw [List.cons_lt_cons_iff]
          rcases Nat.lt_trichotomy c.toNat d.toNat with hlt | heq | hgt
          · exact Or.inl hlt
          · have hsame : c = d := Char.toNat_inj.1 heq
            subst hsame
            exact Or.inr ⟨rfl, ih hrest hcs' hds' (Nat.lt_of_add_lt_add_left h)⟩
          · -- a larger first digit outweighs all that follows
            have hvalue := digitsValue_lt hds'
            have hle : (d.toNat - 48 + 1) * 10 ^ ds.length ≤ (c.toNat - 48) * 10 ^ ds.length :=
              Nat.mul_le_mul_right _ (by omega)
            rw [Nat.add_mul, Nat.one_mul] at hle
            omega

/-- Padded numerals are ordered by their numbers. -/
theorem paddedNumeral_lt {width m n : Nat} (hwidth : 0 < width) (h : m < n) (hn : n < 10 ^ width) :
    paddedNumeral width m < paddedNumeral width n := by
  refine lt_of_digitsValue_lt ?_ (fun _ => isDigit_of_mem_paddedNumeral)
    (fun _ => isDigit_of_mem_paddedNumeral) ?_
  · rw [length_paddedNumeral hwidth (Nat.lt_trans h hn), length_paddedNumeral hwidth hn]
  · rw [digitsValue_paddedNumeral, digitsValue_paddedNumeral]
    exact h

end Text

end LedgerMatch
