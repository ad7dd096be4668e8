import LedgerMatch.Proofs.Files.Flat

/-!
# Contents of files

A file that was written has the content that was written, and keeps it while other files are
written. Both hold in the file stores that keep contents under paths.
-/

namespace LedgerMatch

/-- A place for files in which a written file has its content, and writing leaves files alone whose
paths part from that of the written one. -/
class HoldsContents (φ : Type) [FileSystem φ] where
  /-- the content of the file under a path, if there is one -/
  content? : φ → Path → Option Bytes
  content_write : ∀ {fs fs' : φ} {p : Path} {content : Bytes},
    FileSystem.write fs p content = (.ok (), fs') → content? fs' p = some content
  content_write_of_forks : ∀ {fs : φ} {p q : Path} {content old : Bytes}, p.Forks q →
    content? fs q = some old → content? (FileSystem.write fs p content).2 q = some old

namespace FlatFiles

variable {p q : Path}

theorem contentUnder?_cons_of_same {r : Path} (h : p.same r = true) (content : Bytes)
    (rest : List (Path × Bytes)) : contentUnder? p ((r, content) :: rest) = some content := by
  simp [contentUnder?, h]

theorem contentUnder?_cons_of_not_same {r : Path} (h : p.same r = false) (content : Bytes)
    (rest : List (Path × Bytes)) :
    contentUnder? p ((r, content) :: rest) = contentUnder? p rest := by
  simp [contentUnder?, h]

theorem contentUnder?_insertEntry (p : Path) (content : Bytes) (es : List (Path × Bytes)) :
    contentUnder? p (insertEntry p content es) = some content := by
  have hself : p.same p = true := Path.same_iff.2 rfl
  induction es with
  | nil => exact contentUnder?_cons_of_same hself content []
  | cons e rest ih =>
      obtain ⟨r, old⟩ := e
      rcases Path.same_or_lt_or_gt p r with hsame | hlt | hgt
      · rw [insertEntry_of_same hsame, contentUnder?_cons_of_same hsame]
      · rw [insertEntry_of_lt hlt, contentUnder?_cons_of_same hself]
      · have hother : p.same r = false := by
          rw [Path.same_comm]
          exact Path.not_same_of_lt hgt
        rw [insertEntry_of_gt hgt, contentUnder?_cons_of_not_same hother, ih]

theorem contentUnder?_insertEntry_of_not_same (h : p.same q = false) (content : Bytes)
    (es : List (Path × Bytes)) :
    contentUnder? q (insertEntry p content es) = contentUnder? q es := by
  have hother : q.same p = false := by
    rw [Path.same_comm]
    exact h
  induction es with
  | nil => exact contentUnder?_cons_of_not_same hother content []
  | cons e rest ih =>
      obtain ⟨r, old⟩ := e
      rcases Path.same_or_lt_or_gt p r with hsame | hlt | hgt
      · have hqr : q.same r = false := by
          rw [Path.same, ← Path.same_iff.1 hsame]
          exact hother
        rw [insertEntry_of_same hsame, contentUnder?_cons_of_not_same hqr,
          contentUnder?_cons_of_not_same hqr]
      · rw [insertEntry_of_lt hlt, contentUnder?_cons_of_not_same hother]
      · rw [insertEntry_of_gt hgt]
        cases hqr : q.same r with
        | true => rw [contentUnder?_cons_of_same hqr, contentUnder?_cons_of_same hqr]
        | false => rw [contentUnder?_cons_of_not_same hqr, contentUnder?_cons_of_not_same hqr, ih]

theorem find?_insert (fs : FlatFiles) (p : Path) (content : Bytes) :
    (fs.insert p content).find? p = some content :=
  contentUnder?_insertEntry p content fs.entries

/-- Storing a file leaves the other files alone. -/
theorem find?_insert_of_not_same (h : p.same q = false) (fs : FlatFiles) (content : Bytes) :
    (fs.insert p content).find? q = fs.find? q :=
  contentUnder?_insertEntry_of_not_same h content fs.entries

/-- The content of an entry is found under its path. -/
theorem find?_of_mem (fs : FlatFiles) {e : Path × Bytes} (he : e ∈ fs.entries) :
    fs.find? e.1 = some e.2 := by
  obtain ⟨es, hes⟩ := fs
  show contentUnder? e.1 es = some e.2
  induction es with
  | nil => cases he
  | cons f rest ih =>
      obtain ⟨hfirst, hrest⟩ := List.pairwise_cons.1 hes
      obtain ⟨q, old⟩ := f
      rcases List.mem_cons.1 he with rfl | hmem
      · exact contentUnder?_cons_of_same (Path.same_iff.2 rfl) old rest
      · have hne : e.1.same q = false := by
          rw [Path.same_comm]
          exact Path.not_same_of_lt (hfirst e hmem)
        rw [contentUnder?_cons_of_not_same hne]
        exact ih hrest hmem

end FlatFiles

instance : HoldsContents FlatFiles where
  content? := FlatFiles.find?
  content_write := by
    intro fs fs' p content h
    cases h
    exact fs.find?_insert p content
  content_write_of_forks := by
    intro fs p q content old hforks hold
    exact (FlatFiles.find?_insert_of_not_same hforks.not_same fs content).trans hold

instance : HoldsContents FaultyFiles where
  content? fs p := fs.files.find? p
  content_write := by
    intro fs fs' p content h
    replace h : fs.write p content = (.ok (), fs') := h
    rw [FaultyFiles.write] at h
    split at h
    · cases h
    · cases h
      exact fs.files.find?_insert p content
  content_write_of_forks := by
    intro fs p q content old hforks hold
    show (fs.write p content).2.files.find? q = some old
    rw [FaultyFiles.write]
    split
    · exact hold
    · exact (FlatFiles.find?_insert_of_not_same hforks.not_same fs.files content).trans hold

end LedgerMatch
