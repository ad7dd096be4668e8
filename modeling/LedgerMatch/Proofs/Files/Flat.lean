import LedgerMatch.Files.Faults
import LedgerMatch.Proofs.Path

/-!
# Writing different files

Writing two different files leads to the same files in either order. Whether a file can be written
depends on its path alone, and never on what was written before.
-/

namespace LedgerMatch

namespace FlatFiles

variable {p q : Path}

/-- One path before the other: the two contents can be stored in either order. -/
theorem insertEntry_comm_of_lt (h : p.lt q = true) (c d : Bytes) (es : List (Path × Bytes)) :
    insertEntry q d (insertEntry p c es) = insertEntry p c (insertEntry q d es) := by
  induction es with
  | nil =>
      show insertEntry q d [(p, c)] = insertEntry p c [(q, d)]
      rw [insertEntry_of_gt h, insertEntry_of_lt h]
      rfl
  | cons e rest ih =>
      obtain ⟨r, old⟩ := e
      rcases Path.same_or_lt_or_gt p r with hp | hp | hp
      · -- the entry has the path that comes first
        have hq : r.lt q = true := by rw [← Path.lt_congr_left hp]; exact h
        rw [insertEntry_of_same hp, insertEntry_of_gt hq, insertEntry_of_gt hq,
          insertEntry_of_same hp]
      · rw [insertEntry_of_lt hp, insertEntry_of_gt h]
        rcases Path.same_or_lt_or_gt q r with hq | hq | hq
        · rw [insertEntry_of_same hq, insertEntry_of_lt hp]
        · rw [insertEntry_of_lt hq, insertEntry_of_lt h]
        · rw [insertEntry_of_gt hq, insertEntry_of_lt hp]
      · have hq : r.lt q = true := Path.lt_trans hp h
        rw [insertEntry_of_gt hp, insertEntry_of_gt hq, insertEntry_of_gt hq,
          insertEntry_of_gt hp, ih]

theorem insertEntry_comm (h : p.same q = false) (c d : Bytes) (es : List (Path × Bytes)) :
    insertEntry q d (insertEntry p c es) = insertEntry p c (insertEntry q d es) := by
  rcases Path.same_or_lt_or_gt p q with hsame | hlt | hgt
  · rw [hsame] at h
    cases h
  · exact insertEntry_comm_of_lt hlt c d es
  · exact (insertEntry_comm_of_lt hgt d c es).symm

end FlatFiles

namespace FaultyFiles

/-- Whether a file can be written does not depend on what was written before. -/
theorem write_result_write (fs : FaultyFiles) (p q : Path) (c d : Bytes) :
    ((fs.write q d).2.write p c).1 = (fs.write p c).1 := by
  unfold write
  split
  · rfl
  · dsimp only
    split <;> rfl

theorem write_comm {p q : Path} (h : p.same q = false) (fs : FaultyFiles) (c d : Bytes) :
    ((fs.write p c).2.write q d).2 = ((fs.write q d).2.write p c).2 := by
  unfold write
  by_cases hp : Faults.covers fs.faults.write p = true
  · by_cases hq : Faults.covers fs.faults.write q = true
    · simp [hp, hq]
    · simp [hp, hq]
  · by_cases hq : Faults.covers fs.faults.write q = true
    · simp [hp, hq]
    · simp [hp, hq, FlatFiles.insert, FlatFiles.insertEntry_comm h]

end FaultyFiles

end LedgerMatch
