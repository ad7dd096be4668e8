import Mathlib.Data.List.Forall2
import Mathlib.Data.List.Nodup

/-!
# Lists and steps

Facts that hold of all lists, and of all steps that may fail.
-/

namespace LedgerMatch

/-! ### Sorted lists -/

section

variable {α : Type} {le : α → α → Bool}

/-- Lists with the same elements are the same when they are sorted. -/
theorem mergeSort_eq_of_perm (htrans : ∀ a b c, le a b = true → le b c = true → le a c = true)
    (htotal : ∀ a b, (le a b || le b a) = true) {l l' : List α}
    (hanti : ∀ a ∈ l, ∀ b ∈ l, le a b = true → le b a = true → a = b) (h : l.Perm l') :
    l.mergeSort le = l'.mergeSort le := by
  apply List.Perm.eq_of_pairwise (fun a b ha hb hab hba => ?_)
    (List.pairwise_mergeSort htrans htotal l) (List.pairwise_mergeSort htrans htotal l')
  · exact (List.mergeSort_perm l le).trans (h.trans (List.mergeSort_perm l' le).symm)
  · exact hanti a (List.mem_mergeSort.1 ha) b (h.mem_iff.2 (List.mem_mergeSort.1 hb)) hab hba

theorem number_le_trans (a b c : Nat × α) (hab : decide (a.1 ≤ b.1) = true)
    (hbc : decide (b.1 ≤ c.1) = true) : decide (a.1 ≤ c.1) = true := by
  rw [decide_eq_true_eq] at hab hbc ⊢
  exact Nat.le_trans hab hbc

theorem number_le_total (a b : Nat × α) : (decide (a.1 ≤ b.1) || decide (b.1 ≤ a.1)) = true := by
  rw [Bool.or_eq_true, decide_eq_true_eq, decide_eq_true_eq]
  exact Nat.le_total a.1 b.1

/-- Numbered lists with the same elements are the same in the order of the numbers, if no number stands
beside two things. -/
theorem mergeSort_numbers_eq_of_perm {l l' : List (Nat × α)}
    (hnumbers : ∀ a ∈ l, ∀ b ∈ l, a.1 = b.1 → a = b) (h : l.Perm l') :
    (l.mergeSort fun a b => a.1 ≤ b.1) = l'.mergeSort fun a b => a.1 ≤ b.1 := by
  refine mergeSort_eq_of_perm number_le_trans number_le_total ?_ h
  intro a ha b hb hab hba
  rw [decide_eq_true_eq] at hab hba
  exact hnumbers a ha b hb (Nat.le_antisymm hab hba)

/-- Lists that look alike look alike when they are sorted, if their elements are told apart by what
is seen of them. -/
theorem map_mergeSort_eq_of_perm {β : Type} (seen : α → β) (before : β → β → Prop)
    (htrans : ∀ a b c, le a b = true → le b c = true → le a c = true)
    (htotal : ∀ a b, (le a b || le b a) = true)
    (hbefore : ∀ a b, le a b = true → before (seen a) (seen b)) {l l' : List α}
    (hanti : ∀ x ∈ l.map seen, ∀ y ∈ l.map seen, before x y → before y x → x = y)
    (h : (l.map seen).Perm (l'.map seen)) :
    (l.mergeSort le).map seen = (l'.mergeSort le).map seen := by
  have hsorted : ∀ m : List α, ((m.mergeSort le).map seen).Pairwise before := fun m =>
    List.pairwise_map.2 ((List.pairwise_mergeSort htrans htotal m).imp (hbefore _ _))
  have hperm : ∀ m : List α, ((m.mergeSort le).map seen).Perm (m.map seen) := fun m =>
    (List.mergeSort_perm m le).map seen
  refine List.Perm.eq_of_pairwise (fun x y hx hy hxy hyx => ?_) (hsorted l) (hsorted l')
    ((hperm l).trans (h.trans (hperm l').symm))
  exact hanti x ((hperm l).mem_iff.1 hx) y (h.mem_iff.2 ((hperm l').mem_iff.1 hy)) hxy hyx

/-- The elements picked from a sorted list are those picked before, sorted. -/
theorem filter_mergeSort (htrans : ∀ a b c, le a b = true → le b c = true → le a c = true)
    (htotal : ∀ a b, (le a b || le b a) = true) {l : List α}
    (hanti : ∀ a ∈ l, ∀ b ∈ l, le a b = true → le b a = true → a = b) (p : α → Bool) :
    (l.mergeSort le).filter p = (l.filter p).mergeSort le := by
  apply List.Perm.eq_of_pairwise (fun a b ha hb hab hba => ?_)
    ((List.pairwise_mergeSort htrans htotal l).filter p)
    (List.pairwise_mergeSort htrans htotal (l.filter p))
  · exact ((List.mergeSort_perm l le).filter p).trans (List.mergeSort_perm (l.filter p) le).symm
  · exact hanti a (List.mem_mergeSort.1 (List.mem_filter.1 ha).1) b
      (List.mem_filter.1 (List.mem_mergeSort.1 hb)).1 hab hba

end

/-! ### Lists without repetition -/

/-- Each element that is kept is kept once. -/
theorem nodup_eraseDups {α : Type} [BEq α] [LawfulBEq α] (as : List α) : as.eraseDups.Nodup := by
  match as with
  | [] => simp
  | a :: rest =>
      rw [List.eraseDups_cons]
      refine List.nodup_cons.2 ⟨?_, nodup_eraseDups _⟩
      rw [List.mem_eraseDups]
      simp
termination_by as.length
decreasing_by
  have := List.length_filter_le (fun b => !b == a) rest
  simp only [List.length_cons]
  omega

/-- An element is found by a key that no other element has. -/
theorem find?_of_nodup {α κ : Type} [BEq κ] [LawfulBEq κ] {key : α → κ} {as : List α}
    (h : (as.map key).Nodup) {a : α} (ha : a ∈ as) : as.find? (key · == key a) = some a := by
  obtain ⟨b, hb⟩ : ∃ b, as.find? (key · == key a) = some b := by
    rw [← Option.isSome_iff_exists, List.find?_isSome]
    exact ⟨a, ha, beq_self_eq_true _⟩
  have hfound := List.find?_some hb
  have hkey : key b = key a := eq_of_beq hfound
  rw [hb, List.inj_on_of_nodup_map h (List.mem_of_find?_eq_some hb) ha hkey]

/-! ### Lists in parts -/

/-- What stands at a place of the front of a list stands there in the list. -/
theorem getElem?_of_prefix {α : Type} {front as : List α} (h : front <+: as) {i : Nat} {a : α}
    (hi : front[i]? = some a) : as[i]? = some a := by
  obtain ⟨hlt, rfl⟩ := List.getElem?_eq_some_iff.1 hi
  exact List.prefix_iff_getElem?.1 h i hlt

/-- A list holds what stands at its places, in turn. -/
theorem filterMap_getElem?_range {α : Type} (as : List α) :
    (List.range as.length).filterMap (as[·]?) = as := by
  induction as with
  | nil => rfl
  | cons a rest ih =>
      rw [List.length_cons, List.range_succ_eq_map, List.filterMap_cons_some List.getElem?_cons_zero,
        List.filterMap_map]
      exact congrArg (a :: ·) ih

theorem length_take_of_getElem? {α : Type} {l : List α} {i : Nat} {a : α} (h : l[i]? = some a) :
    (l.take i).length = i := by
  obtain ⟨hi, -⟩ := List.getElem?_eq_some_iff.1 h
  exact List.length_take_of_le (Nat.le_of_lt hi)

/-- What is taken from lists that look alike leaves lists that look alike, if it does so itself. -/
theorem map_rest_perm {α β : Type} (seen : α → β) {taken rest all taken' rest' all' : List α}
    (h : (taken ++ rest).Perm all) (h' : (taken' ++ rest').Perm all')
    (hall : (all.map seen).Perm (all'.map seen))
    (htaken : (taken.map seen).Perm (taken'.map seen)) :
    (rest.map seen).Perm (rest'.map seen) := by
  have hparts := (h.map seen).trans (hall.trans (h'.map seen).symm)
  rw [List.map_append, List.map_append] at hparts
  exact (List.perm_append_left_iff _).1 (hparts.trans (htaken.symm.append_right _))

/-! ### Lists in groups -/

/-- The groups of a list, one for each key, hold together what the list holds. -/
theorem flatMap_filter_perm {α κ : Type} [BEq κ] [LawfulBEq κ] {key : α → κ} {keys : List κ}
    (hkeys : keys.Nodup) {as : List α} (h : ∀ a ∈ as, key a ∈ keys) :
    (keys.flatMap fun k => as.filter (key · == k)).Perm as := by
  induction keys generalizing as with
  | nil =>
      cases as with
      | nil => exact .refl []
      | cons a rest => cases h a List.mem_cons_self
  | cons k rest ih =>
      obtain ⟨hk, hrest⟩ := List.nodup_cons.1 hkeys
      have hothers : (rest.flatMap fun k' => as.filter (key · == k'))
          = rest.flatMap fun k' => (as.filter fun a => !key a == k).filter (key · == k') := by
        refine List.flatMap_congr fun k' hk' => ?_
        rw [List.filter_filter]
        refine List.filter_congr fun a _ => ?_
        cases hsame : key a == k' with
        | false => rfl
        | true =>
            have hne : key a ≠ k := fun heq => hk (heq ▸ eq_of_beq hsame ▸ hk')
            simp [hne]
      have hkeysRest : ∀ a ∈ as.filter fun a => !key a == k, key a ∈ rest := by
        intro a ha
        obtain ⟨hmem, hne⟩ := List.mem_filter.1 ha
        exact (List.mem_cons.1 (h a hmem)).resolve_left (by simpa using hne)
      rw [List.flatMap_cons, hothers]
      exact ((ih hrest hkeysRest).append_left _).trans (List.filter_append_perm _ as)

/-! ### Steps that may fail -/

/-- A sequence of two steps succeeds if both do. -/
theorem bind_eq_ok {α β ε : Type} {x : Except ε α} {f : α → Except ε β} {b : β} :
    x >>= f = .ok b ↔ ∃ a, x = .ok a ∧ f a = .ok b := by
  cases x with
  | error e => simp [bind, Except.bind]
  | ok a => simp [bind, Except.bind]

/-- A sequence of two steps fails with the first of them that does. -/
theorem bind_eq_error {α β ε : Type} {x : Except ε α} {f : α → Except ε β} {e : ε} :
    x >>= f = .error e ↔ x = .error e ∨ ∃ a, x = .ok a ∧ f a = .error e := by
  cases x with
  | error e => simp [bind, Except.bind]
  | ok a => simp [bind, Except.bind]

theorem mapError_eq_ok {α ε ε' : Type} {x : Except ε α} {f : ε → ε'} {a : α} :
    x.mapError f = .ok a ↔ x = .ok a := by
  cases x with
  | error e => simp [Except.mapError]
  | ok b => simp [Except.mapError]

theorem map_eq_ok {α β ε : Type} {x : Except ε α} {f : α → β} {b : β} :
    x.map f = .ok b ↔ ∃ a, x = .ok a ∧ f a = b := by
  cases x with
  | error e => simp [Except.map]
  | ok a => simp [Except.map]

/-- What is read from a list is read from its elements, one after the other. -/
theorem forall₂_of_mapM {α β ε : Type} {f : α → Except ε β} {as : List α} {bs : List β}
    (h : as.mapM f = .ok bs) : List.Forall₂ (fun a b => f a = .ok b) as bs := by
  induction as generalizing bs with
  | nil =>
      cases h
      exact List.Forall₂.nil
  | cons a rest ih =>
      rw [List.mapM_cons, bind_eq_ok] at h
      obtain ⟨b, hb, htail⟩ := h
      obtain ⟨cs, hcs, hbs⟩ := bind_eq_ok.1 htail
      cases hbs
      exact List.Forall₂.cons hb (ih hcs)

/-- What is said of elements, and again of what is read from them, is said of two lists alike. -/
theorem map_eq_of_mapM {α β γ ε : Type} {f : α → Except ε β} {g : α → γ} {k : β → γ}
    (hread : ∀ a b, f a = .ok b → g a = k b) {as : List α} {bs : List β}
    (h : as.mapM f = .ok bs) : as.map g = bs.map k := by
  have hall : List.Forall₂ (fun a b => g a = k b) as bs := (forall₂_of_mapM h).imp hread
  rw [← List.forall₂_map_right_iff, ← List.forall₂_map_left_iff, List.forall₂_eq_eq_eq] at hall
  exact hall

/-- A list is read if each of its elements can be. -/
theorem exists_mapM_eq_ok {α β ε : Type} {f : α → Except ε β} {as : List α}
    (h : ∀ a ∈ as, ∃ b, f a = .ok b) : ∃ bs, as.mapM f = .ok bs := by
  induction as with
  | nil => exact ⟨[], rfl⟩
  | cons a rest ih =>
      obtain ⟨b, hb⟩ := h a List.mem_cons_self
      obtain ⟨bs, hbs⟩ := ih fun c hc => h c (List.mem_cons_of_mem _ hc)
      refine ⟨b :: bs, ?_⟩
      rw [List.mapM_cons, hb, hbs]
      rfl

/-- Lists that look alike are read alike, if what is seen of their elements is all that is read. -/
theorem mapM_eq_of_map_eq {α β ε : Type} {f : α → Except ε β} (seen : α → α)
    (hseen : ∀ a, f (seen a) = f a) {as bs : List α} (h : as.map seen = bs.map seen) :
    as.mapM f = bs.mapM f := by
  have hread : ∀ cs : List α, (cs.map seen).mapM f = cs.mapM f := fun cs => by
    rw [List.mapM_map, show f ∘ seen = f from funext hseen]
  rw [← hread as, h, hread bs]

theorem exists_of_mem_mapM {α β ε : Type} {f : α → Except ε β} {as : List α} {bs : List β}
    (h : as.mapM f = .ok bs) {b : β} (hb : b ∈ bs) : ∃ a ∈ as, f a = .ok b := by
  obtain ⟨i, hi, rfl⟩ := List.getElem_of_mem hb
  have hread := forall₂_of_mapM h
  have hi' : i < as.length := hread.length_eq ▸ hi
  exact ⟨as.get ⟨i, hi'⟩, List.get_mem .., hread.get hi' hi⟩

end LedgerMatch
