import LedgerMatch.Proofs.Files.Contents

/-!
# Writing and removing again

Contents that are stored once more, and directories that are removed once more, leave the same files
as if they had been stored or removed only then. What lies below a root is the same after files
elsewhere were stored or removed.
-/

namespace LedgerMatch.FlatFiles

variable {p : Path}

/-! ### Storing again -/

/-- The later of two contents under a path replaces the earlier one. -/
theorem insertEntry_insertEntry (p : Path) (c d : Bytes) (es : List (Path × Bytes)) :
    insertEntry p d (insertEntry p c es) = insertEntry p d es := by
  have hself : p.same p = true := Path.same_iff.2 rfl
  induction es with
  | nil => exact insertEntry_of_same hself d []
  | cons e rest ih =>
      obtain ⟨r, old⟩ := e
      rcases Path.same_or_lt_or_gt p r with hsame | hlt | hgt
      · rw [insertEntry_of_same hsame, insertEntry_of_same hsame, insertEntry_of_same hsame]
      · rw [insertEntry_of_lt hlt, insertEntry_of_lt hlt, insertEntry_of_same hself]
      · rw [insertEntry_of_gt hgt, insertEntry_of_gt hgt, insertEntry_of_gt hgt, ih]

theorem insert_insert (fs : FlatFiles) (p : Path) (c d : Bytes) :
    (fs.insert p c).insert p d = fs.insert p d :=
  FlatFiles.ext (insertEntry_insertEntry p c d fs.entries)

theorem insert_comm {q : Path} (h : p.same q = false) (fs : FlatFiles) (c d : Bytes) :
    (fs.insert p c).insert q d = (fs.insert q d).insert p c :=
  FlatFiles.ext (insertEntry_comm h c d fs.entries)

/-- Stores contents from left to right beside the files there are. -/
def insertAll (contents : List (Path × Bytes)) (fs : FlatFiles) : FlatFiles :=
  contents.foldl (fun fs f => fs.insert f.1 f.2) fs

variable {contents : List (Path × Bytes)} {f : Path × Bytes}

theorem insertAll_append (contents later : List (Path × Bytes)) (fs : FlatFiles) :
    insertAll (contents ++ later) fs = insertAll later (insertAll contents fs) :=
  List.foldl_append ..

/-- A content that will be stored anyway can be stored before. -/
theorem insertAll_insert (h : contents.Pairwise fun f g => f.1.same g.1 = false)
    (hf : f ∈ contents) (fs : FlatFiles) :
    insertAll contents (fs.insert f.1 f.2) = insertAll contents fs := by
  induction contents generalizing fs with
  | nil => cases hf
  | cons g rest ih =>
      obtain ⟨hfirst, hrest⟩ := List.pairwise_cons.1 h
      rw [insertAll, insertAll, List.foldl_cons, List.foldl_cons]
      rcases List.mem_cons.1 hf with rfl | hmem
      · rw [insert_insert]
      · have hapart : f.1.same g.1 = false := by
          rw [Path.same_comm]
          exact hfirst f hmem
        rw [insert_comm hapart]
        exact ih hrest hmem _

/-- Contents that are stored already change nothing. -/
theorem insertAll_of_stored {fs : FlatFiles} (h : ∀ f ∈ contents, fs.insert f.1 f.2 = fs) :
    insertAll contents fs = fs := by
  induction contents with
  | nil => rfl
  | cons f rest ih =>
      rw [insertAll, List.foldl_cons, h f List.mem_cons_self]
      exact ih fun g hg => h g (List.mem_cons_of_mem f hg)

/-! ### Finding what was stored -/

theorem find?_congr {q : Path} (h : p.same q = true) (fs : FlatFiles) : fs.find? p = fs.find? q := by
  have hsame : ∀ r : Path, p.same r = q.same r := fun r => by
    rw [Path.same, Path.same, Path.same_iff.1 h]
  simp only [find?, contentUnder?, hsame]

theorem find?_insertAll_congr {q : Path} {fs fs' : FlatFiles} (h : fs.find? q = fs'.find? q) :
    (insertAll contents fs).find? q = (insertAll contents fs').find? q := by
  induction contents generalizing fs fs' with
  | nil => exact h
  | cons f rest ih =>
      have hnext : (fs.insert f.1 f.2).find? q = (fs'.insert f.1 f.2).find? q := by
        cases hsame : f.1.same q with
        | true => rw [← find?_congr hsame, ← find?_congr hsame, find?_insert, find?_insert]
        | false => rw [find?_insert_of_not_same hsame, find?_insert_of_not_same hsame, h]
      exact ih hnext

/-- Only contents that are stored under a path matter to what is found there. -/
theorem find?_insertAll_filter (contents : List (Path × Bytes)) (q : Path) (fs : FlatFiles) :
    (insertAll contents fs).find? q
      = (insertAll (contents.filter fun f => f.1.same q) fs).find? q := by
  induction contents generalizing fs with
  | nil => rfl
  | cons f rest ih =>
      cases hsame : f.1.same q with
      | true =>
          rw [List.filter_cons_of_pos (by exact hsame)]
          exact ih (fs.insert f.1 f.2)
      | false =>
          rw [List.filter_cons_of_neg (by simp [hsame])]
          exact (find?_insertAll_congr (find?_insert_of_not_same hsame fs f.2)).trans (ih fs)

theorem find?_insertAll_of_mem (h : contents.Pairwise fun f g => f.1.same g.1 = false)
    (hf : f ∈ contents) (fs : FlatFiles) : (insertAll contents fs).find? f.1 = some f.2 := by
  obtain ⟨before, behind, rfl⟩ := List.append_of_mem hf
  obtain ⟨-, hbehind, -⟩ := List.pairwise_append.1 h
  have hnone : ∀ g ∈ behind, ¬ g.1.same f.1 = true := by
    intro g hg
    rw [Path.same_comm, (List.pairwise_cons.1 hbehind).1 g hg]
    exact Bool.false_ne_true
  rw [insertAll_append, find?_insertAll_filter, List.filter_cons_of_pos (by exact Path.same_iff.2 rfl),
    List.filter_eq_nil_iff.2 hnone]
  exact find?_insert _ f.1 f.2

/-! ### Removing again -/

/-- Removes everything at and below some directories. -/
def eraseAll (dirs : List Path) (fs : FlatFiles) : FlatFiles := dirs.foldl erase fs

theorem entries_eraseAll (dirs : List Path) (fs : FlatFiles) :
    (eraseAll dirs fs).entries = fs.entries.filter fun e => !dirs.any e.1.isBelow := by
  induction dirs generalizing fs with
  | nil => simp [eraseAll]
  | cons dir dirs ih =>
      show (eraseAll dirs (fs.erase dir)).entries = _
      rw [ih, erase, keepOnly, List.filter_filter]
      refine List.filter_congr fun e _ => ?_
      rw [List.any_cons, Bool.not_or, Bool.and_comm]

variable {dirs : List Path} {dir : Path}

/-- A directory that will be removed anyway can be removed before. -/
theorem eraseAll_erase (h : dir ∈ dirs) (fs : FlatFiles) :
    eraseAll dirs (fs.erase dir) = eraseAll dirs fs := by
  have hentries : (eraseAll dirs (fs.erase dir)).entries = (eraseAll dirs fs).entries := by
    rw [entries_eraseAll, entries_eraseAll, erase, keepOnly, List.filter_filter]
    refine List.filter_congr fun e _ => ?_
    cases hbelow : e.1.isBelow dir with
    | true =>
        have hany : dirs.any e.1.isBelow = true := List.any_eq_true.2 ⟨dir, h, hbelow⟩
        rw [hany]
        rfl
    | false => exact Bool.and_true _
  exact FlatFiles.ext hentries

/-- Storing a file does not show among entries that are chosen by paths other than its own. -/
theorem filter_insertEntry (keep : Path → Bool) (h : ∀ q, p.same q = true → keep q = false)
    (content : Bytes) (es : List (Path × Bytes)) :
    (insertEntry p content es).filter (fun e => keep e.1) = es.filter fun e => keep e.1 := by
  have hself : keep p = false := h p (Path.same_iff.2 rfl)
  induction es with
  | nil => simp [insertEntry, hself]
  | cons e rest ih =>
      obtain ⟨r, old⟩ := e
      rcases Path.same_or_lt_or_gt p r with hsame | hlt | hgt
      · rw [insertEntry_of_same hsame, List.filter_cons_of_neg (by simp [h r hsame]),
          List.filter_cons_of_neg (by simp [h r hsame])]
      · rw [insertEntry_of_lt hlt, List.filter_cons_of_neg (by simp [hself])]
      · rw [insertEntry_of_gt hgt, List.filter_cons, List.filter_cons, ih]

/-- A file in a directory that will be removed anyway can be stored before. -/
theorem eraseAll_insert (h : dir ∈ dirs) (hp : p.isBelow dir = true) (content : Bytes)
    (fs : FlatFiles) : eraseAll dirs (fs.insert p content) = eraseAll dirs fs := by
  have hentries : (eraseAll dirs (fs.insert p content)).entries = (eraseAll dirs fs).entries := by
    rw [entries_eraseAll, entries_eraseAll]
    refine filter_insertEntry (fun q => !dirs.any q.isBelow) (fun q hsame => ?_) content _
    have hany : dirs.any q.isBelow = true :=
      List.any_eq_true.2 ⟨dir, h, Path.isBelow_congr hsame dir ▸ hp⟩
    rw [hany]
    rfl
  exact FlatFiles.ext hentries

/-! ### What lies below a root -/

/-- The same files at and below a root. -/
structure AlikeBelow (root : Path) (fs fs' : FlatFiles) : Prop where
  below : fs.below root = fs'.below root
  find? : ∀ q, q.isBelow root = true → fs.find? q = fs'.find? q

variable {root : Path}

theorem below_eq (fs : FlatFiles) (root : Path) :
    fs.below root = (fs.entries.filter fun e => e.1.isBelow root).map Prod.fst := by
  rw [below, paths, List.filter_map]
  rfl

theorem AlikeBelow.refl (root : Path) (fs : FlatFiles) : AlikeBelow root fs fs :=
  ⟨rfl, fun _ _ => rfl⟩

/-- Storing a file elsewhere leaves the files below a root alone. -/
theorem AlikeBelow.insert {fs fs' : FlatFiles} (h : AlikeBelow root fs fs')
    (hp : p.isBelow root = false) (content : Bytes) :
    AlikeBelow root (fs.insert p content) fs' where
  below := by
    rw [← h.below, below_eq, below_eq]
    refine congrArg (List.map Prod.fst) (filter_insertEntry (fun q => q.isBelow root) ?_ _ _)
    intro q hsame
    rw [← Path.isBelow_congr hsame]
    exact hp
  find? := by
    intro q hq
    rw [find?_insert_of_not_same, h.find? q hq]
    rw [← Bool.not_eq_true]
    intro hsame
    rw [Path.isBelow_congr hsame, hq] at hp
    cases hp

theorem find?_erase {q : Path} (h : q.isBelow dir = false) (fs : FlatFiles) :
    (fs.erase dir).find? q = fs.find? q := by
  rw [FlatFiles.find?, FlatFiles.find?, contentUnder?, contentUnder?, erase, keepOnly, List.find?_filter]
  refine congrArg (Option.map Prod.snd) (congrArg (List.find? · fs.entries) ?_)
  funext e
  cases hsame : q.same e.1 with
  | true =>
      rw [← Path.isBelow_congr hsame dir, h]
      rfl
  | false => simp

/-- Removing a directory elsewhere leaves the files below a root alone. -/
theorem AlikeBelow.erase {fs fs' : FlatFiles} (h : AlikeBelow root fs fs')
    (hdir : ∀ q : Path, q.isBelow root = true → q.isBelow dir = false) :
    AlikeBelow root (fs.erase dir) fs' where
  below := by
    rw [← h.below, below_eq, below_eq, FlatFiles.erase, keepOnly, List.filter_filter]
    refine congrArg (List.map Prod.fst) (List.filter_congr fun e _ => ?_)
    cases hbelow : e.1.isBelow root with
    | true =>
        rw [hdir e.1 hbelow]
        rfl
    | false => rfl
  find? := by
    intro q hq
    rw [find?_erase (hdir q hq), h.find? q hq]

end LedgerMatch.FlatFiles
