import LedgerMatch.Csv.Columns
import LedgerMatch.Proofs.Common
import LedgerMatch.Proofs.Text.Letter

/-!
# Cells under their names

A row is bound to a header by the names of the columns that are asked for. If the header has each of
these names once at most, the cells are those fields that stand under the names, wherever they stand,
and all columns that are not asked for can be left out.
-/

namespace LedgerMatch.Csv

open Text

/-! ### Cells and fields -/

/-- A column is asked for under a name. -/
def asksFor (columns : List Column) (name : String) : Bool := (columns.find? (·.name == name)).isSome

/-- A cell is read from the field under a name that is asked for. -/
def Binds (columns : List Column) (name field : String) (cell : Cell) : Prop :=
  ∃ column, columns.find? (·.name == name) = some column ∧ column.kind.read 0 field = .ok cell

/-- The index of a field is told only if the field cannot be read. -/
theorem CellKind.read_eq_ok {kind : CellKind} {field : String} {cell : Cell} {i : Nat} (j : Nat)
    (h : kind.read i field = .ok cell) : kind.read j field = .ok cell := by
  cases kind with
  | text => exact h
  | integer =>
      unfold read at h ⊢
      dsimp only at h ⊢
      split at h
      · exact h
      · cases h

variable {columns : List Column} {header header' row row' : List String} {i : Nat}
  {found result : List (String × Cell)} {cells : List Cell}

theorem asksFor_of_binds {name field : String} {cell : Cell} (h : Binds columns name field cell) :
    asksFor columns name = true := by
  obtain ⟨column, hcolumn, -⟩ := h
  rw [asksFor, hcolumn]
  rfl

/-- A field has one cell at most. -/
theorem Binds.unique {name field : String} {cell other : Cell} (h : Binds columns name field cell)
    (hother : Binds columns name field other) : cell = other := by
  obtain ⟨column, hcolumn, hread⟩ := h
  obtain ⟨column', hcolumn', hread'⟩ := hother
  rw [hcolumn] at hcolumn'
  cases hcolumn'
  rw [hread] at hread'
  cases hread'
  rfl

/-! ### Collecting -/

/-- What was collected from a row: the cells of the fields under the names that are asked for, each
name once. -/
structure Collected (columns : List Column) (pairs : List (String × String))
    (found result : List (String × Cell)) : Prop where
  readable : ∀ p ∈ pairs, asksFor columns p.1 = true → ∃ cell, Binds columns p.1 p.2 cell
  mem_iff : ∀ name cell, (name, cell) ∈ result ↔
    (name, cell) ∈ found ∨ ∃ field, (name, field) ∈ pairs ∧ Binds columns name field cell
  nodup : (found.map Prod.fst).Nodup → (result.map Prod.fst).Nodup

/-- A field under a name that is not asked for is passed over. -/
theorem Collected.skip {pairs : List (String × String)} (h : Collected columns pairs found result)
    {name : String} (hunasked : asksFor columns name = false) (field : String) :
    Collected columns ((name, field) :: pairs) found result := by
  refine ⟨fun p hp hasked => ?_, fun n cell => ?_, h.nodup⟩
  · rcases List.mem_cons.1 hp with rfl | hmem
    · rw [hunasked] at hasked
      cases hasked
    · exact h.readable p hmem hasked
  · rw [h.mem_iff]
    refine or_congr_right (exists_congr fun f => ?_)
    constructor
    · exact fun hf => ⟨List.mem_cons_of_mem _ hf.1, hf.2⟩
    · rintro ⟨hf, hbinds⟩
      rcases List.mem_cons.1 hf with heq | hmem
      · cases heq
        rw [asksFor_of_binds hbinds] at hunasked
        cases hunasked
      · exact ⟨hmem, hbinds⟩

/-- A field under a name that is asked for, and was not found before, becomes a cell. -/
theorem Collected.take {pairs : List (String × String)} {name field : String} {cell : Cell}
    (h : Collected columns pairs (found ++ [(name, cell)]) result)
    (hbinds : Binds columns name field cell) (hnew : name ∉ found.map Prod.fst) :
    Collected columns ((name, field) :: pairs) found result := by
  refine ⟨fun p hp hasked => ?_, fun n c => ?_, fun hnodup => h.nodup ?_⟩
  · rcases List.mem_cons.1 hp with rfl | hmem
    · exact ⟨cell, hbinds⟩
    · exact h.readable p hmem hasked
  · rw [h.mem_iff, List.mem_append, List.mem_singleton, or_assoc]
    refine or_congr_right ?_
    constructor
    · rintro (heq | ⟨f, hf, hb⟩)
      · cases heq
        exact ⟨field, List.mem_cons_self, hbinds⟩
      · exact ⟨f, List.mem_cons_of_mem _ hf, hb⟩
    · rintro ⟨f, hf, hb⟩
      rcases List.mem_cons.1 hf with heq | hmem
      · cases heq
        exact Or.inl (by rw [hb.unique hbinds])
      · exact Or.inr ⟨f, hmem, hb⟩
  · rw [List.map_append, List.nodup_append]
    refine ⟨hnodup, by simp, ?_⟩
    rintro a ha b hb rfl
    obtain rfl : a = name := by simpa using hb
    exact hnew ha

theorem collected_of_collect (hlength : header.length = row.length)
    (h : collect columns i found header row = .ok result) :
    Collected columns (header.zip row) found result := by
  induction header generalizing i found row with
  | nil =>
      rw [collect] at h
      cases h
      exact ⟨by simp, by simp, id⟩
  | cons name names ih =>
      cases row with
      | nil => simp at hlength
      | cons field row =>
          have hrest : names.length = row.length := by simpa using hlength
          rw [collect] at h
          split at h
          · next hnone => exact (ih hrest h).skip (by rw [asksFor, hnone]; rfl) field
          · next column hcolumn =>
              split at h
              · cases h
              · next hfirst =>
                  have hnew : name ∉ found.map Prod.fst := by
                    intro hmem
                    obtain ⟨p, hp, rfl⟩ := List.mem_map.1 hmem
                    exact hfirst (List.any_eq_true.2 ⟨p, hp, by simp⟩)
                  split at h
                  · cases h
                  · next cell hread =>
                      exact (ih hrest h).take ⟨column, hcolumn, CellKind.read_eq_ok 0 hread⟩ hnew

/-- A row is collected if its fields can be read and no name that is asked for comes twice. -/
theorem exists_collect (hlength : header.length = row.length)
    (hread : ∀ p ∈ header.zip row, asksFor columns p.1 = true → ∃ cell, Binds columns p.1 p.2 cell)
    (hnodup : (header.filter (asksFor columns)).Nodup)
    (hnew : ∀ name ∈ header, asksFor columns name = true → name ∉ found.map Prod.fst) :
    ∃ result, collect columns i found header row = .ok result := by
  induction header generalizing i found row with
  | nil => exact ⟨found, by rw [collect]⟩
  | cons name names ih =>
      cases row with
      | nil => simp at hlength
      | cons field row =>
          have hrest : names.length = row.length := by simpa using hlength
          have hreadRest := fun p hp => hread p (List.mem_cons_of_mem _ hp)
          rw [collect]
          split
          · next hnone =>
              have hunasked : asksFor columns name = false := by rw [asksFor, hnone]; rfl
              rw [List.filter_cons_of_neg (by simp [hunasked])] at hnodup
              exact ih hrest hreadRest hnodup fun n hn => hnew n (List.mem_cons_of_mem _ hn)
          · next column hcolumn =>
              have hasked : asksFor columns name = true := by rw [asksFor, hcolumn]; rfl
              rw [List.filter_cons_of_pos hasked] at hnodup
              obtain ⟨hname, hnodupRest⟩ := List.nodup_cons.1 hnodup
              have hfirst : ¬ found.any (·.1 == name) = true := by
                intro hany
                obtain ⟨p, hp, heq⟩ := List.any_eq_true.1 hany
                exact hnew name List.mem_cons_self hasked
                  (List.mem_map.2 ⟨p, hp, eq_of_beq heq⟩)
              obtain ⟨cell, column', hcolumn', hcell⟩ := hread (name, field) List.mem_cons_self hasked
              rw [hcolumn] at hcolumn'
              cases hcolumn'
              rw [if_neg hfirst, CellKind.read_eq_ok i hcell]
              apply ih hrest hreadRest hnodupRest
              intro n hn hn'
              rw [List.map_append, List.mem_append, not_or]
              refine ⟨hnew n (List.mem_cons_of_mem _ hn) hn', ?_⟩
              intro hsame
              obtain rfl : n = name := by simpa using hsame
              exact hname (List.mem_filter.2 ⟨hn, hn'⟩)

/-! ### Arranging -/

theorem arrange_eq_ok_iff :
    arrange found columns = .ok cells ↔
      List.Forall₂ (fun column cell => found.lookup column.name = some cell) columns cells := by
  induction columns generalizing cells with
  | nil => simp [arrange, eq_comm]
  | cons column columns ih =>
      rw [arrange]
      cases hlookup : found.lookup column.name with
      | none => simp [List.forall₂_cons_left_iff, hlookup]
      | some cell =>
          cases harranged : arrange found columns with
          | error fault =>
              have hnone : ∀ rest, ¬ List.Forall₂
                  (fun column cell => found.lookup column.name = some cell) columns rest := by
                intro rest hrest
                rw [← ih, harranged] at hrest
                cases hrest
              simp [List.forall₂_cons_left_iff, hlookup, hnone, Except.map]
          | ok rest =>
              simp only [List.forall₂_cons_left_iff, hlookup, Except.map, ← ih, harranged,
                Except.ok.injEq, Option.some.injEq]
              constructor
              · rintro rfl
                exact ⟨cell, rest, rfl, rfl, rfl⟩
              · rintro ⟨_, _, rfl, rfl, rfl⟩
                rfl

/-- In a list where each name comes once, a name is looked up as what stands beside it. -/
theorem lookup_eq_some_iff_mem {β : Type} {entries : List (String × β)}
    (h : (entries.map Prod.fst).Nodup) {name : String} {b : β} :
    entries.lookup name = some b ↔ (name, b) ∈ entries := by
  induction entries with
  | nil => simp
  | cons entry entries ih =>
      obtain ⟨n, c⟩ := entry
      obtain ⟨hn, hrest⟩ := List.nodup_cons.1 h
      by_cases hname : name = n
      · subst hname
        have hother : (name, b) ∉ entries := fun hmem => hn (List.mem_map.2 ⟨_, hmem, rfl⟩)
        simp [hother, eq_comm]
      · have hne : (name == n) = false := beq_false_of_ne hname
        simp [List.lookup_cons, hne, ih hrest, hname]

/-! ### Binding -/

/-- The cell of a column is read from the field under its name. -/
def IsCellOf (columns : List Column) (pairs : List (String × String)) (column : Column)
    (cell : Cell) : Prop :=
  ∃ field, (column.name, field) ∈ pairs ∧ Binds columns column.name field cell

/-- A row is bound if the fields under all names that are asked for can be read; then each cell is
that of its column. -/
theorem bindRow_eq_ok_iff (hlength : header.length = row.length)
    (hnodup : (header.filter (asksFor columns)).Nodup) :
    bindRow columns header row = .ok cells ↔
      (∀ p ∈ header.zip row, asksFor columns p.1 = true → ∃ cell, Binds columns p.1 p.2 cell) ∧
        List.Forall₂ (IsCellOf columns (header.zip row)) columns cells := by
  have hcells : ∀ found, collect columns 0 [] header row = .ok found →
      (arrange found columns = .ok cells ↔
        List.Forall₂ (IsCellOf columns (header.zip row)) columns cells) := by
    intro found hfound
    have hcollected := collected_of_collect hlength hfound
    have hcell : (fun column cell => found.lookup column.name = some cell)
        = IsCellOf columns (header.zip row) := by
      funext column cell
      rw [lookup_eq_some_iff_mem (hcollected.nodup List.nodup_nil), hcollected.mem_iff]
      simp [IsCellOf]
    rw [arrange_eq_ok_iff, hcell]
  constructor
  · intro h
    obtain ⟨found, hfound, harrange⟩ := bind_eq_ok.1 (show _ >>= _ = _ from h)
    exact ⟨(collected_of_collect hlength hfound).readable, (hcells found hfound).1 harrange⟩
  · rintro ⟨hread, hbound⟩
    obtain ⟨found, hfound⟩ : ∃ found, collect columns 0 [] header row = .ok found :=
      exists_collect hlength hread hnodup (by simp)
    rw [bindRow, hfound]
    exact (hcells found hfound).2 hbound

/-- Two rows are bound alike if the same fields stand under the names that are asked for. -/
theorem bindRow_congr (hlength : header.length = row.length) (hlength' : header'.length = row'.length)
    (hnodup : (header.filter (asksFor columns)).Nodup)
    (hnodup' : (header'.filter (asksFor columns)).Nodup)
    (h : ∀ name field, asksFor columns name = true →
      ((name, field) ∈ header.zip row ↔ (name, field) ∈ header'.zip row')) (cells : List Cell) :
    bindRow columns header row = .ok cells ↔ bindRow columns header' row' = .ok cells := by
  have hcell : IsCellOf columns (header.zip row) = IsCellOf columns (header'.zip row') := by
    funext column cell
    refine propext (exists_congr fun field => ?_)
    constructor
    · rintro ⟨hmem, hbinds⟩
      exact ⟨(h _ _ (asksFor_of_binds hbinds)).1 hmem, hbinds⟩
    · rintro ⟨hmem, hbinds⟩
      exact ⟨(h _ _ (asksFor_of_binds hbinds)).2 hmem, hbinds⟩
  rw [bindRow_eq_ok_iff hlength hnodup, bindRow_eq_ok_iff hlength' hnodup', hcell]
  refine and_congr_left fun _ => ?_
  constructor
  · intro hread p hp hasked
    exact hread p ((h p.1 p.2 hasked).2 hp) hasked
  · intro hread p hp hasked
    exact hread p ((h p.1 p.2 hasked).1 hp) hasked

/-! ### Texts -/

theorem CellKind.eq_of_read {kind : CellKind} {i : Nat} {field s : String}
    (h : kind.read i field = .ok (.text s)) : field = s := by
  cases kind with
  | text =>
      cases h
      rfl
  | integer =>
      rw [read] at h
      split at h <;> cases h

theorem mem_of_collect (h : collect columns i found header row = .ok result) {name s : String}
    (hs : (name, Cell.text s) ∈ result) : (name, Cell.text s) ∈ found ∨ s ∈ row := by
  induction header generalizing i found row with
  | nil =>
      rw [collect] at h
      cases h
      exact Or.inl hs
  | cons n names ih =>
      unfold collect at h
      split at h
      · split at h
        · cases h
        · exact (ih h).imp_right (List.mem_cons_of_mem _)
      · split at h
        · cases h
        · split at h
          · cases h
          · split at h
            · cases h
            · next cell hread =>
                rcases ih h with hmem | hmem
                · rcases List.mem_append.1 hmem with hold | hnew
                  · exact Or.inl hold
                  · obtain ⟨-, rfl⟩ := Prod.mk.inj (List.mem_singleton.1 hnew)
                    exact Or.inr (CellKind.eq_of_read hread ▸ List.mem_cons_self)
                · exact Or.inr (List.mem_cons_of_mem _ hmem)

/-- The text of a cell is a field of the row. -/
theorem mem_of_bindRow (h : bindRow columns header row = .ok cells) {s : String}
    (hs : Cell.text s ∈ cells) : s ∈ row := by
  obtain ⟨found, hfound, harrange⟩ := bind_eq_ok.1 (show _ >>= _ = _ from h)
  obtain ⟨column, -, hlookup⟩ : ∃ column ∈ columns, found.lookup column.name = some (.text s) := by
    obtain ⟨k, hk, heq⟩ := List.getElem_of_mem hs
    have hall := arrange_eq_ok_iff.1 harrange
    have hk' : k < columns.length := hall.length_eq ▸ hk
    exact ⟨_, List.getElem_mem hk', heq ▸ hall.get hk' hk⟩
  obtain ⟨front, behind, hsplit, -⟩ := List.lookup_eq_some_iff.1 hlookup
  have hmem : (column.name, Cell.text s) ∈ found := by rw [hsplit]; simp
  exact (mem_of_collect hfound hmem).resolve_left (by simp)

/-- The texts of a record have no blanks around them. -/
theorem trim_of_mem_texts? {raw : RawRecord} {texts : List String} (h : texts? raw = some texts)
    {s : String} (hs : s ∈ texts) : trim s = s := by
  induction raw generalizing texts with
  | nil =>
      cases h
      cases hs
  | cons field raw ih =>
      rw [texts?, List.mapM_cons] at h
      obtain ⟨first, hfirst, h⟩ := Option.bind_eq_some_iff.1 h
      obtain ⟨rest, hrest, h⟩ := Option.bind_eq_some_iff.1 h
      cases h
      rcases List.mem_cons.1 hs with rfl | hmem
      · obtain ⟨text, -, rfl⟩ := Option.map_eq_some_iff.1 hfirst
        exact trim_trim text
      · exact ih hrest hmem

end LedgerMatch.Csv
