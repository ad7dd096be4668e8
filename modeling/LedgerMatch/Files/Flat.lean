import LedgerMatch.Files.Basic
import LedgerMatch.Path.Order

/-!
# Files without directories

A file store that holds contents under paths, in the order of paths. Paths with the same
components name the same file, which keeps the spelling it was first stored under.
-/

namespace LedgerMatch

namespace FlatFiles

/-- Each path comes before those behind it, so that no two entries have the same path. -/
def Ordered (entries : List (Path × Bytes)) : Prop := entries.Pairwise fun a b => a.1.lt b.1 = true

/-- Stores a content in a list of entries in the order of paths. -/
def insertEntry (p : Path) (content : Bytes) : List (Path × Bytes) → List (Path × Bytes)
  | [] => [(p, content)]
  | (q, old) :: rest =>
      if p.same q then (q, content) :: rest
      else if p.lt q then (p, content) :: (q, old) :: rest
      else (q, old) :: insertEntry p content rest

/-- The content of the entry under a path. -/
def contentUnder? (p : Path) (entries : List (Path × Bytes)) : Option Bytes :=
  (entries.find? fun e => p.same e.1).map (·.2)

/-! ### Storing in order -/

section

variable {p r : Path} {old : Bytes}

theorem insertEntry_of_same (h : p.same r = true) (content : Bytes) (rest : List (Path × Bytes)) :
    insertEntry p content ((r, old) :: rest) = (r, content) :: rest := by
  simp [insertEntry, h]

theorem insertEntry_of_lt (h : p.lt r = true) (content : Bytes) (rest : List (Path × Bytes)) :
    insertEntry p content ((r, old) :: rest) = (p, content) :: (r, old) :: rest := by
  simp [insertEntry, Path.not_same_of_lt h, h]

theorem insertEntry_of_gt (h : r.lt p = true) (content : Bytes) (rest : List (Path × Bytes)) :
    insertEntry p content ((r, old) :: rest) = (r, old) :: insertEntry p content rest := by
  have hsame : p.same r = false := by
    rw [Path.same_comm]
    exact Path.not_same_of_lt h
  simp [insertEntry, hsame, Path.not_lt_of_lt h]

end

theorem mem_insertEntry {p : Path} {content : Bytes} {es : List (Path × Bytes)} {e : Path × Bytes}
    (h : e ∈ insertEntry p content es) : e.1 = p ∨ ∃ old ∈ es, e.1 = old.1 := by
  induction es with
  | nil =>
      rw [List.mem_singleton.1 h]
      exact Or.inl rfl
  | cons f rest ih =>
      obtain ⟨q, old⟩ := f
      rcases Path.same_or_lt_or_gt p q with hsame | hlt | hgt
      · rw [insertEntry_of_same hsame] at h
        rcases List.mem_cons.1 h with rfl | hrest
        · exact Or.inr ⟨(q, old), List.mem_cons_self, rfl⟩
        · exact Or.inr ⟨e, List.mem_cons_of_mem _ hrest, rfl⟩
      · rw [insertEntry_of_lt hlt] at h
        rcases List.mem_cons.1 h with rfl | hrest
        · exact Or.inl rfl
        · exact Or.inr ⟨e, hrest, rfl⟩
      · rw [insertEntry_of_gt hgt] at h
        rcases List.mem_cons.1 h with rfl | hrest
        · exact Or.inr ⟨(q, old), List.mem_cons_self, rfl⟩
        · rcases ih hrest with hp | ⟨f, hf, heq⟩
          · exact Or.inl hp
          · exact Or.inr ⟨f, List.mem_cons_of_mem _ hf, heq⟩

theorem Ordered.nil : Ordered [] := List.Pairwise.nil

theorem Ordered.insertEntry {es : List (Path × Bytes)} (h : Ordered es) (p : Path)
    (content : Bytes) : Ordered (insertEntry p content es) := by
  induction es with
  | nil => exact List.pairwise_singleton _ _
  | cons f rest ih =>
      obtain ⟨q, old⟩ := f
      obtain ⟨hfirst, hrest⟩ := List.pairwise_cons.1 h
      rcases Path.same_or_lt_or_gt p q with hsame | hlt | hgt
      · rw [insertEntry_of_same hsame]
        exact List.pairwise_cons.2 ⟨hfirst, hrest⟩
      · rw [insertEntry_of_lt hlt]
        refine List.pairwise_cons.2 ⟨fun e he => ?_, h⟩
        rcases List.mem_cons.1 he with rfl | hmem
        · exact hlt
        · exact Path.lt_trans hlt (hfirst e hmem)
      · rw [insertEntry_of_gt hgt]
        refine List.pairwise_cons.2 ⟨fun e he => ?_, ih hrest⟩
        rcases mem_insertEntry he with hp | ⟨f, hf, heq⟩
        · rw [hp]
          exact hgt
        · rw [heq]
          exact hfirst f hf

theorem Ordered.filter {es : List (Path × Bytes)} (h : Ordered es) (keep : Path × Bytes → Bool) :
    Ordered (es.filter keep) :=
  List.Pairwise.filter keep h

end FlatFiles

/-- Files in the order of their paths. -/
@[ext]
structure FlatFiles where
  entries : List (Path × Bytes)
  ordered : FlatFiles.Ordered entries
  deriving DecidableEq

namespace FlatFiles

def empty : FlatFiles := ⟨[], .nil⟩

def insert (fs : FlatFiles) (p : Path) (content : Bytes) : FlatFiles :=
  ⟨insertEntry p content fs.entries, fs.ordered.insertEntry p content⟩

/-- Stores contents from left to right. -/
def ofList (files : List (Path × Bytes)) : FlatFiles :=
  files.foldl (fun fs f => fs.insert f.1 f.2) empty

def find? (fs : FlatFiles) (p : Path) : Option Bytes := contentUnder? p fs.entries

def contains (fs : FlatFiles) (p : Path) : Bool := (fs.find? p).isSome

def paths (fs : FlatFiles) : List Path := fs.entries.map (·.1)

/-- The paths at and below a root. -/
def below (fs : FlatFiles) (root : Path) : List Path := fs.paths.filter (·.isBelow root)

/-- The files under some of the paths. -/
def keepOnly (fs : FlatFiles) (keep : Path → Bool) : FlatFiles :=
  ⟨fs.entries.filter fun e => keep e.1, fs.ordered.filter _⟩

/-- The files that are not at or below a root. -/
def erase (fs : FlatFiles) (root : Path) : FlatFiles := fs.keepOnly fun p => !p.isBelow root

def read (fs : FlatFiles) (p : Path) : Except FileFault Bytes :=
  match fs.find? p with
  | some content => .ok content
  | none => .error (.missing p)

/-- The content of a file as a text. -/
def readText (fs : FlatFiles) (p : Path) : Except FileFault String :=
  match fs.read p with
  | .error fault => .error fault
  | .ok content =>
      match Text.decode? content with
      | some s => .ok s
      | none => .error .notText

end FlatFiles

instance : FileSystem FlatFiles where
  walk fs root := .ok (fs.below root)
  openFile fs p := (fs.read p).map Source.whole
  write fs p content := (.ok (), fs.insert p content)
  remove fs p := (.ok (), fs.erase p)

end LedgerMatch
