import LedgerMatch.Proofs.Text.Digits
import LedgerMatch.Settings.Load
import Mathlib.Data.List.TakeWhile

/-!
# Variables that look like scalars

The text of a variable is taken as a truth value or a number wherever it looks like one. Scalars have
neither commas nor slashes in them, so that texts joined by commas are taken as a list, and paths of
several parts as they are; one code alone is taken as a list only if it looks like no scalar.
-/

namespace LedgerMatch

open Text

/-- The truth value or the number that a text looks like. -/
def scalar? (s : String) : Option Value :=
  if lower s = "true" then some (.boolean true)
  else if lower s = "false" then some (.boolean false)
  else match readSigned 10 s.toList with
    | .ok n => some (.integer n)
    | .error _ => (Binary64.ofText? s).map .real

/-- The value of a variable that looks like nothing else. -/
def wordsOf (key s : String) : Value :=
  if key = "list_bank" then .list ((cut (· == ',') s.toList).map fun cs => .text (String.ofList cs))
  else .text s

theorem variableValue_eq (key s : String) :
    variableValue key s = (scalar? s).getD (wordsOf key s) := by
  rw [variableValue, scalar?, wordsOf]
  split
  · rfl
  · split
    · rfl
    · cases readSigned 10 s.toList with
      | ok n => rfl
      | error fault => cases Binary64.ofText? s <;> rfl

/-- The four kinds of texts that look like scalars. -/
theorem scalar?_cases {s : String} {v : Value} (h : scalar? s = some v) :
    (lower s = "true" ∧ v = .boolean true) ∨ (lower s = "false" ∧ v = .boolean false) ∨
      (∃ n, readSigned 10 s.toList = .ok n ∧ v = .integer n) ∨
      ∃ x, Binary64.ofText? s = some x ∧ v = .real x := by
  rw [scalar?] at h
  split at h
  · next hname =>
      cases h
      exact Or.inl ⟨hname, rfl⟩
  · split at h
    · next hname =>
        cases h
        exact Or.inr (Or.inl ⟨hname, rfl⟩)
    · split at h
      · next n hread =>
          cases h
          exact Or.inr (Or.inr (Or.inl ⟨n, hread, rfl⟩))
      · obtain ⟨x, hx, rfl⟩ := Option.map_eq_some_iff.1 h
        exact Or.inr (Or.inr (Or.inr ⟨x, hx, rfl⟩))

/-- A scalar has a text, and is no list. -/
theorem scalar?_kind {s : String} {v : Value} (h : scalar? s = some v) :
    (∃ text, v.asText? = some text) ∧ v.asTexts? = none := by
  rcases scalar?_cases h with ⟨-, rfl⟩ | ⟨-, rfl⟩ | ⟨n, -, rfl⟩ | ⟨x, -, rfl⟩ <;>
    exact ⟨⟨_, rfl⟩, rfl⟩

/-! ### Characters of scalars -/

/-- A digit, a sign, a point, or a letter of the names of truth values and of numbers, in either
case. -/
def isScalarChar (c : Char) : Bool :=
  isDigit c || "+-.".toList.contains c || "aefilnrstuy".toList.contains c.toLower

/-- Texts of digits, signs, points and such letters. -/
def OfScalarChars (cs : List Char) : Prop := ∀ c ∈ cs, isScalarChar c = true

theorem ofScalarChars_cons {c : Char} {cs : List Char} (hc : isScalarChar c = true)
    (hcs : OfScalarChars cs) : OfScalarChars (c :: cs) := List.forall_mem_cons.2 ⟨hc, hcs⟩

theorem ofScalarChars_append {cs ds : List Char} (hcs : OfScalarChars cs) (hds : OfScalarChars ds) :
    OfScalarChars (cs ++ ds) := List.forall_mem_append.2 ⟨hcs, hds⟩

theorem ofScalarChars_of_digits {cs : List Char} (h : ∀ c ∈ cs, isDigit c = true) :
    OfScalarChars cs := fun c hc => by rw [isScalarChar, h c hc]; rfl

theorem ofScalarChars_of_lower {s name : String}
    (hname : name.toList.all "aefilnrstuy".toList.contains = true) (h : lower s = name) :
    OfScalarChars s.toList := by
  intro c hc
  have hmem : c.toLower ∈ name.toList := by
    rw [← h, lower, String.toList_ofList]
    exact List.mem_map_of_mem hc
  rw [isScalarChar, List.all_eq_true.1 hname _ hmem, Bool.or_true]

theorem isDigit_of_digitIn? {c : Char} {d : Nat} (h : digitIn? 10 c = some d) :
    isDigit c = true := by
  rw [digitIn?, Option.filter_eq_some_iff] at h
  obtain ⟨hvalue, hlt⟩ := h
  rw [decide_eq_true_eq] at hlt
  rw [isDigit, digitValue?]
  split at hvalue
  · next hdigit => rw [if_pos hdigit]; rfl
  · split at hvalue
    · next hletter =>
        cases hvalue
        have : 97 ≤ c.toNat := hletter.1
        omega
    · split at hvalue
      · next hletter =>
          cases hvalue
          have : 65 ≤ c.toNat := hletter.1
          omega
      · cases hvalue

theorem ofScalarChars_of_readDigits {negative : Bool} {start n : Int} {cs : List Char}
    (h : readDigits 10 negative start cs = .ok n) : OfScalarChars cs := by
  induction cs generalizing start with
  | nil => exact fun c hc => nomatch hc
  | cons c cs ih =>
      rw [readDigits] at h
      split at h
      · cases h
      · next d hd =>
          have hc : isScalarChar c = true := by
            rw [isScalarChar, isDigit_of_digitIn? hd]
            rfl
          dsimp only at h
          generalize (if negative = true then start * (10 : Nat) - d else start * (10 : Nat) + d) = next
            at h
          split at h
          · cases h
          · split at h
            · cases h
            · exact ofScalarChars_cons hc (ih h)

theorem ofScalarChars_of_readSigned {cs : List Char} {n : Int} (h : readSigned 10 cs = .ok n) :
    OfScalarChars cs := by
  unfold readSigned at h
  split at h
  · cases h
  · cases h
  · cases h
  · exact ofScalarChars_cons (by decide) (ofScalarChars_of_readDigits h)
  · exact ofScalarChars_cons (by decide) (ofScalarChars_of_readDigits h)
  · exact ofScalarChars_of_readDigits h

namespace Binary64

theorem ofScalarChars_of_mantissa? {cs : List Char} {d : Decimal} (h : mantissa? cs = some d) :
    OfScalarChars cs := by
  rw [← List.takeWhile_append_dropWhile (p := isDigit) (l := cs)]
  refine ofScalarChars_append (ofScalarChars_of_digits fun c hc => List.mem_takeWhile_imp hc) ?_
  unfold mantissa? at h
  split at h
  · next hrest =>
      rw [hrest]
      exact fun c hc => nomatch hc
  · next fraction hrest =>
      dsimp only at h
      split at h
      · next hdigits =>
          rw [hrest]
          exact ofScalarChars_cons (by decide)
            (ofScalarChars_of_digits (List.all_eq_true.1 hdigits.2))
      · cases h
  · cases h

theorem ofScalarChars_of_exponent? {cs : List Char} {n : Int} (h : exponent? cs = some n) :
    OfScalarChars cs := by
  have hdigits : ∀ {ds : List Char} {f : Int → Int},
      ((number? ds).bind fun k => some (k : Int)).map f = some n → OfScalarChars ds := by
    intro ds f hmap
    obtain ⟨m, hm, -⟩ := Option.map_eq_some_iff.1 hmap
    obtain ⟨k, hk, -⟩ := Option.bind_eq_some_iff.1 hm
    exact ofScalarChars_of_digits (number?_eq_some.1 hk).2.1
  unfold exponent? at h
  split at h
  · exact ofScalarChars_cons (by decide) (hdigits h)
  · exact ofScalarChars_cons (by decide) (hdigits h)
  · exact hdigits h

theorem ofScalarChars_of_decimal? {cs : List Char} {d : Decimal} (h : decimal? cs = some d) :
    OfScalarChars cs := by
  rw [← List.takeWhile_append_dropWhile (p := fun c => c != 'e' && c != 'E') (l := cs)]
  have hmark := List.head?_dropWhile_not (fun c => c != 'e' && c != 'E') cs
  unfold decimal? at h
  split at h
  · next hrest =>
      rw [hrest, List.append_nil]
      exact ofScalarChars_of_mantissa? h
  · next mark power hrest =>
      obtain ⟨b, hbase, hpower⟩ := Option.bind_eq_some_iff.1 h
      obtain ⟨e, hexponent, -⟩ := Option.map_eq_some_iff.1 hpower
      rw [hrest] at hmark ⊢
      refine ofScalarChars_append (ofScalarChars_of_mantissa? hbase)
        (ofScalarChars_cons ?_ (ofScalarChars_of_exponent? hexponent))
      have hletter : mark = 'e' ∨ mark = 'E' := by simpa [or_iff_not_imp_left] using hmark
      rcases hletter with rfl | rfl <;> decide

theorem ofScalarChars_of_ofText? {s : String} {x : Binary64} (h : ofText? s = some x) :
    OfScalarChars s.toList := by
  have hunsigned : ∀ {negative cs}, unsigned? negative cs = some x → OfScalarChars cs := by
    intro negative cs hread
    rw [← String.toList_ofList (l := cs)]
    rw [unsigned?] at hread
    split at hread
    · next hname =>
        exact hname.elim (ofScalarChars_of_lower (by decide)) (ofScalarChars_of_lower (by decide))
    · split at hread
      · next hname => exact ofScalarChars_of_lower (by decide) hname
      · obtain ⟨d, hd, -⟩ := Option.map_eq_some_iff.1 hread
        rw [String.toList_ofList]
        exact ofScalarChars_of_decimal? hd
  unfold ofText? at h
  split at h
  · next hs =>
      rw [hs]
      exact ofScalarChars_cons (by decide) (hunsigned h)
  · next hs =>
      rw [hs]
      exact ofScalarChars_cons (by decide) (hunsigned h)
  · exact hunsigned h

end Binary64

/-- What looks like a scalar has no other characters. -/
theorem ofScalarChars_of_scalar? {s : String} {v : Value} (h : scalar? s = some v) :
    OfScalarChars s.toList := by
  rcases scalar?_cases h with ⟨hname, -⟩ | ⟨hname, -⟩ | ⟨n, hread, -⟩ | ⟨x, hread, -⟩
  · exact ofScalarChars_of_lower (by decide) hname
  · exact ofScalarChars_of_lower (by decide) hname
  · exact ofScalarChars_of_readSigned hread
  · exact Binary64.ofScalarChars_of_ofText? hread

/-- A text with any other character, such as a comma or a slash, looks like no scalar. -/
theorem scalar?_of_mem {s : String} {c : Char} (hc : isScalarChar c = false) (h : c ∈ s.toList) :
    scalar? s = none := by
  cases hscalar : scalar? s with
  | none => rfl
  | some v => exact absurd (ofScalarChars_of_scalar? hscalar c h) (by simp [hc])

/-! ### Texts joined by commas -/

/-- Texts without a comma are what their joined text is cut into. -/
theorem cut_intercalate {codes : List String} (hne : codes ≠ [])
    (hcodes : ∀ c ∈ codes, ',' ∉ c.toList) :
    cut (· == ',') (",".intercalate codes).toList = codes.map String.toList := by
  have hone : ∀ {c : String}, ',' ∉ c.toList → cut (· == ',') c.toList = [c.toList] := fun hc =>
    cut_of_none fun d hd => beq_false_of_ne (fun heq => hc (heq ▸ hd))
  induction codes with
  | nil => exact (hne rfl).elim
  | cons c rest ih =>
      cases rest with
      | nil =>
          rw [String.intercalate_singleton]
          exact hone (hcodes c List.mem_cons_self)
      | cons d rest =>
          have hrest := ih (List.cons_ne_nil _ _) fun e he => hcodes e (List.mem_cons_of_mem _ he)
          rw [String.intercalate_cons_cons, String.toList_append, String.toList_append,
            List.append_assoc, show ",".toList = [','] by decide, List.singleton_append,
            cut_append_cons (by decide), hone (hcodes c List.mem_cons_self), hrest]
          rfl

/-- Two texts or more that are joined have a comma between them. -/
theorem comma_mem_intercalate (c d : String) (rest : List String) :
    ',' ∈ (",".intercalate (c :: d :: rest)).toList := by
  rw [String.intercalate_cons_cons]
  simp

/-- Joined codes are taken as the list of them, unless one code alone looks like a scalar. -/
theorem variableValue_codes {codes : List String} (hne : codes ≠ [])
    (hcodes : ∀ c ∈ codes, ',' ∉ c.toList) (hscalar : ∀ c, codes = [c] → scalar? c = none) :
    variableValue "list_bank" (",".intercalate codes) = .list (codes.map .text) := by
  have hnone : scalar? (",".intercalate codes) = none := by
    match codes, hscalar with
    | [], _ => exact (hne rfl).elim
    | [c], hscalar =>
        rw [String.intercalate_singleton]
        exact hscalar c rfl
    | c :: d :: rest, _ => exact scalar?_of_mem (by decide) (comma_mem_intercalate c d rest)
  rw [variableValue_eq, hnone, Option.getD_none, wordsOf, if_pos rfl, cut_intercalate hne hcodes,
    List.map_map]
  congr 1
  exact List.map_congr_left fun c _ => by simp

end LedgerMatch
