import Mathlib.Data.List.Infix

/-!
# Patterns

A pattern is a row of pieces that each take a run of characters of a class. It is searched for from
the front of a text on, and where a piece can take several runs the longest is tried first, down to
the end of the text. What a pattern can match at all is said without that order: a search finds a
match if there is one, so that it finds the only groups that any match keeps.
-/

namespace LedgerMatch.Text

/-- A piece takes at least so many characters of a class, and no more unless it repeats. What it takes
may be kept as a group. -/
structure Piece where
  allows : Char → Bool
  least : Nat
  repeats : Bool
  kept : Bool

namespace Piece

/-- A single character of a class. -/
def one (allows : Char → Bool) : Piece := ⟨allows, 1, false, false⟩

/-- Any number of characters of a class. -/
def many (allows : Char → Bool) : Piece := ⟨allows, 0, true, false⟩

/-- One or more characters of a class. -/
def more (allows : Char → Bool) : Piece := ⟨allows, 1, true, false⟩

/-- One or more characters of a class, kept. -/
def group (allows : Char → Bool) : Piece := ⟨allows, 1, true, true⟩

/-- The runs that a piece can take. -/
structure Takes (piece : Piece) (run : List Char) : Prop where
  allowed : ∀ c ∈ run, piece.allows c = true
  least_le : piece.least ≤ run.length
  length_le : piece.repeats = false → run.length ≤ piece.least

/-- The groups with the run of a piece in front, if it is kept. -/
def keep (piece : Piece) (run : List Char) (groups : List (List Char)) : List (List Char) :=
  if piece.kept then run :: groups else groups

/-- The lengths of the runs that a piece can take from the front of a text, the longest first. -/
def lengths (piece : Piece) (cs : List Char) : List Nat :=
  (List.range ((cs.takeWhile piece.allows).length + 1)).reverse.filter fun n =>
    piece.least ≤ n && (piece.repeats || n ≤ piece.least)

end Piece

/-- The groups of the first way in which pieces match a whole text. -/
def wholeMatch? : List Piece → List Char → Option (List (List Char))
  | [], [] => some []
  | [], _ :: _ => none
  | piece :: pieces, cs =>
      (piece.lengths cs).findSome? fun n =>
        (wholeMatch? pieces (cs.drop n)).map (piece.keep (cs.take n))

/-- The groups of the match up to the end of a text that begins first. -/
def search? (pieces : List Piece) (cs : List Char) : Option (List (List Char)) :=
  cs.tails.findSome? (wholeMatch? pieces)

/-- Pieces that match a whole text in some way. -/
inductive Matches : List Piece → List Char → List (List Char) → Prop
  | nil : Matches [] [] []
  | cons {piece : Piece} {pieces : List Piece} {run rest : List Char} {groups : List (List Char)} :
      piece.Takes run → Matches pieces rest groups →
      Matches (piece :: pieces) (run ++ rest) (piece.keep run groups)

/-! ### What a piece takes -/

/-- The characters at the front of a text that lie in a class are counted by the longest run. -/
theorem le_length_takeWhile_iff {p : Char → Bool} {cs : List Char} {n : Nat} :
    n ≤ (cs.takeWhile p).length ↔ n ≤ cs.length ∧ ∀ c ∈ cs.take n, p c = true := by
  induction cs generalizing n with
  | nil => simp
  | cons c rest ih =>
      cases n with
      | zero => simp
      | succ n =>
          rw [List.take_succ_cons, List.forall_mem_cons, List.length_cons, Nat.succ_le_succ_iff]
          by_cases hc : p c = true
          · rw [List.takeWhile_cons_of_pos hc, List.length_cons, Nat.succ_le_succ_iff, ih]
            simp [hc]
          · simp [hc]

/-- The lengths that are tried are those of the runs that can be taken. -/
theorem Piece.mem_lengths {piece : Piece} {cs : List Char} {n : Nat} :
    n ∈ piece.lengths cs ↔ n ≤ cs.length ∧ piece.Takes (cs.take n) := by
  rw [lengths, List.mem_filter, List.mem_reverse, List.mem_range, Nat.lt_succ_iff,
    le_length_takeWhile_iff, and_assoc]
  refine and_congr_right fun hn => ?_
  have hlength : (cs.take n).length = n := List.length_take_of_le hn
  rw [Bool.and_eq_true, Bool.or_eq_true, decide_eq_true_eq, decide_eq_true_eq]
  constructor
  · rintro ⟨hallowed, hleast, hmost⟩
    refine ⟨hallowed, by omega, fun hrepeats => ?_⟩
    rcases hmost with htrue | hle
    · rw [hrepeats] at htrue
      cases htrue
    · omega
  · rintro ⟨hallowed, hleast, hmost⟩
    refine ⟨hallowed, by omega, ?_⟩
    cases hrepeats : piece.repeats with
    | true => exact Or.inl rfl
    | false => exact Or.inr (hlength ▸ hmost hrepeats)

/-! ### Matching piece by piece -/

section

variable {p : Char → Bool} {piece : Piece} {pieces : List Piece} {cs : List Char}
  {groups : List (List Char)}

theorem matches_nil_iff : Matches [] cs groups ↔ cs = [] ∧ groups = [] := by
  constructor
  · intro h
    cases h
    exact ⟨rfl, rfl⟩
  · rintro ⟨rfl, rfl⟩
    exact .nil

theorem matches_cons_iff :
    Matches (piece :: pieces) cs groups ↔ ∃ run rest inner, cs = run ++ rest ∧
      groups = piece.keep run inner ∧ piece.Takes run ∧ Matches pieces rest inner := by
  constructor
  · intro h
    cases h with
    | cons htakes hrest => exact ⟨_, _, _, rfl, rfl, htakes, hrest⟩
  · rintro ⟨run, rest, inner, rfl, rfl, htakes, hrest⟩
    exact .cons htakes hrest

/-- A piece that is not kept leaves the groups of the others. -/
theorem matches_cons_of_not_kept (h : piece.kept = false) :
    Matches (piece :: pieces) cs groups ↔ ∃ run rest, cs = run ++ rest ∧ piece.Takes run ∧
      Matches pieces rest groups := by
  have hkeep : ∀ run inner, piece.keep run inner = inner := fun run inner => by
    rw [Piece.keep, h]
    rfl
  simp only [matches_cons_iff, hkeep]
  constructor
  · rintro ⟨run, rest, inner, hcs, rfl, htakes, hrest⟩
    exact ⟨run, rest, hcs, htakes, hrest⟩
  · rintro ⟨run, rest, hcs, htakes, hrest⟩
    exact ⟨run, rest, groups, hcs, rfl, htakes, hrest⟩

theorem takes_many_iff {run : List Char} :
    (Piece.many p).Takes run ↔ ∀ c ∈ run, p c = true :=
  ⟨fun h => h.allowed, fun h => ⟨h, Nat.zero_le _, fun hrepeats => nomatch hrepeats⟩⟩

theorem takes_more_iff {run : List Char} {kept : Bool} :
    (Piece.mk p 1 true kept).Takes run ↔ run ≠ [] ∧ ∀ c ∈ run, p c = true := by
  rw [← List.length_pos_iff]
  exact ⟨fun h => ⟨h.least_le, h.allowed⟩,
    fun h => ⟨h.2, h.1, fun hrepeats => nomatch hrepeats⟩⟩

theorem takes_one_iff {run : List Char} :
    (Piece.one p).Takes run ↔ ∃ c, run = [c] ∧ p c = true := by
  constructor
  · intro h
    obtain ⟨c, rfl⟩ := List.length_eq_one_iff.1 (Nat.le_antisymm (h.length_le rfl) h.least_le)
    exact ⟨c, rfl, h.allowed c List.mem_cons_self⟩
  · rintro ⟨c, rfl, hc⟩
    exact ⟨List.forall_mem_singleton.2 hc, Nat.le_refl 1, fun _ => Nat.le_refl 1⟩

theorem matches_one_iff :
    Matches (.one p :: pieces) cs groups ↔ ∃ c rest, cs = c :: rest ∧ p c = true ∧
      Matches pieces rest groups := by
  rw [matches_cons_of_not_kept rfl]
  simp only [takes_one_iff]
  constructor
  · rintro ⟨-, rest, rfl, ⟨c, rfl, hc⟩, hrest⟩
    exact ⟨c, rest, rfl, hc, hrest⟩
  · rintro ⟨c, rest, rfl, hc, hrest⟩
    exact ⟨[c], rest, rfl, ⟨c, rfl, hc⟩, hrest⟩

end

/-! ### The order of the search -/

theorem matches_of_wholeMatch? {pieces : List Piece} {cs : List Char} {groups : List (List Char)}
    (h : wholeMatch? pieces cs = some groups) : Matches pieces cs groups := by
  induction pieces generalizing cs groups with
  | nil =>
      cases cs with
      | nil =>
          cases h
          exact .nil
      | cons c rest => cases h
  | cons piece pieces ih =>
      rw [wholeMatch?] at h
      obtain ⟨n, hn, hfound⟩ := List.exists_of_findSome?_eq_some h
      obtain ⟨inner, hinner, rfl⟩ := Option.map_eq_some_iff.1 hfound
      have hmatch := Matches.cons (Piece.mem_lengths.1 hn).2 (ih hinner)
      rwa [List.take_append_drop] at hmatch

theorem exists_wholeMatch? {pieces : List Piece} {cs : List Char} {groups : List (List Char)}
    (h : Matches pieces cs groups) : ∃ found, wholeMatch? pieces cs = some found := by
  induction h with
  | nil => exact ⟨[], rfl⟩
  | @cons piece pieces run rest groups htakes _ ih =>
      obtain ⟨inner, hinner⟩ := ih
      have hlength : run.length ∈ piece.lengths (run ++ rest) := by
        rw [Piece.mem_lengths, List.take_left]
        exact ⟨by simp, htakes⟩
      rw [wholeMatch?, ← Option.isSome_iff_exists, List.findSome?_isSome_iff]
      refine ⟨run.length, hlength, ?_⟩
      rw [List.drop_left, hinner]
      rfl

/-! ### Searching -/

theorem exists_matches_of_search? {pieces : List Piece} {cs : List Char} {groups : List (List Char)}
    (h : search? pieces cs = some groups) : ∃ rest, rest <:+ cs ∧ Matches pieces rest groups := by
  obtain ⟨rest, hrest, hfound⟩ := List.exists_of_findSome?_eq_some h
  exact ⟨rest, (List.mem_tails _ _).1 hrest, matches_of_wholeMatch? hfound⟩

theorem exists_search? {pieces : List Piece} {cs rest : List Char} {groups : List (List Char)}
    (hrest : rest <:+ cs) (h : Matches pieces rest groups) :
    ∃ found, search? pieces cs = some found := by
  obtain ⟨found, hfound⟩ := exists_wholeMatch? h
  rw [search?, ← Option.isSome_iff_exists, List.findSome?_isSome_iff]
  exact ⟨rest, (List.mem_tails _ _).2 hrest, by rw [hfound]; rfl⟩

end LedgerMatch.Text
