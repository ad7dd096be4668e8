import LedgerMatch.Files.Tree
import LedgerMatch.Proofs.Common
import LedgerMatch.Proofs.Files.Contents

/-!
# Contents of files in a tree

A path that can be followed leads to the location that it names. Making directories takes nothing
away, and a file is never stored in the place of a directory; so what could be followed before
writing can be followed after it, and a file stays as it is unless its own location is written.
-/

namespace LedgerMatch

namespace Tree

variable {t u : Tree} {p q : Path} {loc target : Location} {n : TreeNode} {c : PathComponent}

/-! ### Locations -/

theorem node?_root (t : Tree) : t.node? [] = some .directory := rfl

theorem node?_put_self (h : loc ≠ []) (t : Tree) (n : TreeNode) :
    (t.put loc n).node? loc = some n := by
  simp [node?, put, h]

theorem node?_put_of_ne (h : target ≠ loc) (t : Tree) (n : TreeNode) :
    (t.put loc n).node? target = t.node? target := by
  have hrest : ((loc, n) :: t.nodes.filter (·.1 != loc)).find? (·.1 == target)
      = t.nodes.find? (·.1 == target) := by
    rw [List.find?_cons_of_neg (by simpa using h.symm), List.find?_filter]
    refine congrArg (List.find? · t.nodes) (funext fun m => ?_)
    by_cases hm : m.1 = target
    · simp [hm, h]
    · simp [hm]
  rw [node?, node?, put]
  show (if target = [] then _ else (List.find? _ (_ :: _)).map _) = _
  rw [hrest]

/-- The location after a step that can be taken. -/
def stepped (loc : Location) : PathComponent → Location
  | .root => []
  | .current => loc
  | .parent => loc.dropLast
  | .name s => loc ++ [s]

theorem nameOf_eq (t : Tree) (p : Path) : t.nameOf p = p.components.foldl stepped t.home := rfl

/-- Steps can be taken from directories only, and lead where they say. -/
theorem step_eq_ok (h : t.step loc c = .ok target) :
    t.node? loc = some .directory ∧ target = stepped loc c := by
  unfold step at h
  split at h
  · cases h
  · cases h
  · next hdirectory =>
      refine ⟨hdirectory, ?_⟩
      cases c with
      | name s =>
          dsimp only at h
          split at h
          · cases h
          · exact (Except.ok.inj h).symm
      | _ => exact (Except.ok.inj h).symm

theorem follow_cons_eq_ok {steps : List PathComponent} :
    t.follow loc (c :: steps) = .ok target ↔
      ∃ next, t.step loc c = .ok next ∧ t.follow next steps = .ok target := by
  rw [follow, List.foldlM_cons]
  exact bind_eq_ok

theorem eq_of_follow {steps : List PathComponent} (h : t.follow loc steps = .ok target) :
    target = steps.foldl stepped loc := by
  induction steps generalizing loc with
  | nil => exact (Except.ok.inj h).symm
  | cons c steps ih =>
      obtain ⟨next, hstep, hrest⟩ := follow_cons_eq_ok.1 h
      rw [ih hrest, (step_eq_ok hstep).2, List.foldl_cons]

theorem follow_concat {steps : List PathComponent} {next : Location}
    (hfront : t.follow loc steps = .ok next) (hlast : t.step next c = .ok target) :
    t.follow loc (steps ++ [c]) = .ok target := by
  induction steps generalizing loc with
  | nil =>
      cases hfront
      exact follow_cons_eq_ok.2 ⟨target, hlast, rfl⟩
  | cons b steps ih =>
      obtain ⟨after, hstep, hrest⟩ := follow_cons_eq_ok.1 hfront
      exact follow_cons_eq_ok.2 ⟨after, hstep, ih hrest⟩

/-! ### Paths that name locations -/

/-- The parts of a path that are no components leave a location where it is. -/
theorem foldl_stepOf (parts : List (List Char)) (loc : Location) :
    ((parts.filter (· ≠ [])).map stepOf).foldl stepped loc
      = (parts.filterMap PathComponent.ofPart?).foldl stepped loc := by
  induction parts generalizing loc with
  | nil => rfl
  | cons part parts ih =>
      by_cases hempty : part = []
      · subst hempty
        exact ih loc
      · rw [List.filter_cons_of_pos (by simpa using hempty), List.map_cons, List.foldl_cons]
        by_cases hdot : part = ['.']
        · subst hdot
          exact ih loc
        · have hsome : PathComponent.ofPart? part = some (stepOf part) := by
            unfold PathComponent.ofPart? stepOf
            rw [if_neg (not_or.2 ⟨hempty, hdot⟩), if_neg hdot]
            split
            · rfl
            · rfl
          rw [List.filterMap_cons_some hsome, List.foldl_cons, ih]

theorem foldl_componentsOfParts (parts : List (List Char)) (loc : Location) :
    (Path.componentsOfParts parts).foldl stepped loc
      = (parts.filterMap PathComponent.ofPart?).foldl stepped loc := by
  unfold Path.componentsOfParts
  split
  · rfl
  · rfl

/-- A route and the components of its path lead to one location. -/
theorem foldl_steps_of_route {r : Route} (h : t.route p = .ok r) :
    r.steps.foldl stepped r.start = t.nameOf p := by
  rw [route] at h
  split at h
  · cases h
  · split at h
    · cases h
    · split at h
      · cases h
      · next hempty =>
          cases h
          dsimp only
          rw [foldl_stepOf, nameOf_eq, Path.components, Path.isAbsolute]
          have hne : p.text.toList ≠ [] := fun hnil => hempty (String.toList_inj.1 hnil)
          revert hne
          generalize p.text.toList = cs
          intro hne
          cases cs with
          | nil => exact (hne rfl).elim
          | cons c rest =>
              by_cases hslash : c = '/'
              · subst hslash
                rw [Path.cut_slash]
                rfl
              · rw [Path.componentsOf_cons hslash, foldl_componentsOfParts]
                simp [hslash]

/-! ### Paths that lead to files -/

/-- The path can be followed to a location at which a file may lie. -/
def Leads (t : Tree) (p : Path) (loc : Location) : Prop :=
  ∃ r, t.route p = .ok r ∧ r.endsInSlash = false ∧ t.follow r.start r.steps = .ok loc

theorem Leads.eq_nameOf (h : t.Leads p loc) : loc = t.nameOf p := by
  obtain ⟨r, hroute, -, hfollow⟩ := h
  rw [← foldl_steps_of_route hroute]
  exact eq_of_follow hfollow

theorem content?_eq_some {content : Bytes} :
    t.content? p = some content ↔ ∃ loc, t.Leads p loc ∧ t.node? loc = some (.file content) := by
  constructor
  · intro h
    unfold content? at h
    split at h
    · next loc content' hlookup =>
        cases h
        obtain ⟨r, hroute, hrest⟩ := bind_eq_ok.1 hlookup
        obtain ⟨loc', hfollow, hnode⟩ := bind_eq_ok.1 hrest
        split at hnode
        · cases hnode
        · next hfile =>
            split at hnode
            · cases hnode
            · next hslash =>
                cases hnode
                exact ⟨_, ⟨r, hroute, by simpa using hslash, hfollow⟩, hfile⟩
        · cases hnode
    · cases h
  · rintro ⟨loc, ⟨r, hroute, hslash, hfollow⟩, hfile⟩
    have hlookup : t.lookup p = .ok (loc, .file content) := by
      refine bind_eq_ok.2 ⟨r, hroute, bind_eq_ok.2 ⟨loc, hfollow, ?_⟩⟩
      rw [hfile, hslash]
      rfl
    rw [content?, hlookup]

/-- Only a location without a directory is written. -/
theorem leads_of_writable (h : t.writable p = .ok loc) :
    t.Leads p loc ∧ t.node? loc ≠ some .directory := by
  obtain ⟨r, hroute, hrest⟩ := bind_eq_ok.1 h
  obtain ⟨dir, hfront, hrest⟩ := bind_eq_ok.1 hrest
  obtain ⟨-, -, hrest⟩ := bind_eq_ok.1 hrest
  split at hrest
  · next s hlast hslash =>
      obtain ⟨target, hstep, htarget⟩ := bind_eq_ok.1 hrest
      split at htarget
      · cases htarget
      · next hfree =>
          cases htarget
          refine ⟨⟨r, hroute, hslash, ?_⟩, hfree⟩
          have hsteps : r.steps = r.steps.dropLast ++ [.name s] :=
            (List.dropLast_append_getLast? _ hlast).symm
          rw [hsteps]
          exact follow_concat hfront hstep
  · cases hrest

/-! ### Trees that keep directories -/

/-- What lies in one tree lies in the other, seen from the same home. -/
structure Extends (t u : Tree) : Prop where
  home : u.home = t.home
  kept : ∀ loc n, t.node? loc = some n → u.node? loc = some n

/-- The directories of one tree are directories of the other, seen from the same home. -/
structure KeepsDirectories (t u : Tree) : Prop where
  home : u.home = t.home
  kept : ∀ loc, t.node? loc = some .directory → u.node? loc = some .directory

theorem Extends.keepsDirectories (h : t.Extends u) : t.KeepsDirectories u :=
  ⟨h.home, fun loc => h.kept loc .directory⟩

theorem keepsDirectories_put (h : t.node? loc ≠ some .directory) (n : TreeNode) :
    t.KeepsDirectories (t.put loc n) := by
  refine ⟨rfl, fun target htarget => ?_⟩
  have hne : target ≠ loc := by
    rintro rfl
    exact h htarget
  rw [node?_put_of_ne hne]
  exact htarget

namespace KeepsDirectories

theorem step (h : t.KeepsDirectories u) (hstep : t.step loc c = .ok target) :
    u.step loc c = .ok target := by
  have hdirectory := (step_eq_ok hstep).1
  unfold Tree.step at hstep ⊢
  rw [hdirectory] at hstep
  rw [h.kept loc hdirectory]
  exact hstep

theorem follow (h : t.KeepsDirectories u) {steps : List PathComponent}
    (hfollow : t.follow loc steps = .ok target) : u.follow loc steps = .ok target := by
  induction steps generalizing loc with
  | nil => exact hfollow
  | cons c steps ih =>
      obtain ⟨next, hstep, hrest⟩ := follow_cons_eq_ok.1 hfollow
      exact follow_cons_eq_ok.2 ⟨next, h.step hstep, ih hrest⟩

theorem leads (h : t.KeepsDirectories u) (hleads : t.Leads p loc) : u.Leads p loc := by
  obtain ⟨r, hroute, hslash, hfollow⟩ := hleads
  refine ⟨r, ?_, hslash, h.follow hfollow⟩
  rw [route, h.home]
  exact hroute

end KeepsDirectories

/-! ### Making directories -/

namespace Extends

theorem refl (t : Tree) : t.Extends t := ⟨rfl, fun _ _ h => h⟩

theorem trans {v : Tree} (h : t.Extends u) (h' : u.Extends v) : t.Extends v :=
  ⟨h'.home.trans h.home, fun loc n hn => h'.kept loc n (h.kept loc n hn)⟩

/-- Something is put where nothing was. -/
theorem put (h : t.node? loc = none) (n : TreeNode) : t.Extends (t.put loc n) := by
  refine ⟨rfl, fun target m hm => ?_⟩
  have hne : target ≠ loc := by
    rintro rfl
    rw [h] at hm
    cases hm
  rw [node?_put_of_ne hne]
  exact hm

theorem makeDirectory {components : List PathComponent}
    (h : t.makeDirectory components = .ok u) : t.Extends u := by
  obtain ⟨r, -, hrest⟩ := bind_eq_ok.1 h
  obtain ⟨dir, -, hrest⟩ := bind_eq_ok.1 hrest
  obtain ⟨target, -, hrest⟩ := bind_eq_ok.1 hrest
  split at hrest
  · split at hrest
    · cases hrest
    · next hnone =>
        cases hrest
        exact .put hnone .directory
  · cases hrest

theorem makeDirectories (components : List PathComponent) (t : Tree) :
    t.Extends (t.makeDirectories components).2 := by
  induction components generalizing t with
  | nil => exact .refl t
  | cons c before ih =>
      unfold Tree.makeDirectories
      dsimp only
      split
      · have hbefore := ih t
        revert hbefore
        generalize t.makeDirectories before = made
        obtain ⟨result, v⟩ := made
        intro hbefore
        cases result with
        | error fault => exact hbefore
        | ok done =>
            dsimp only
            split
            · next u hmade => exact hbefore.trans (makeDirectory hmade)
            · exact hbefore
      · split
        · next u hmade => exact makeDirectory hmade
        · exact .refl t

/-- A file stays as it is. -/
theorem content? (h : t.Extends u) {content : Bytes} (hcontent : t.content? p = some content) :
    u.content? p = some content := by
  obtain ⟨loc, hleads, hfile⟩ := content?_eq_some.1 hcontent
  exact content?_eq_some.2 ⟨loc, h.keepsDirectories.leads hleads, h.kept loc _ hfile⟩

end Extends

/-! ### Writing -/

theorem foldl_stepped_names (names : List String) (loc : Location) :
    (names.map PathComponent.name).foldl stepped loc = loc ++ names := by
  induction names generalizing loc with
  | nil => exact (List.append_nil loc).symm
  | cons s names ih =>
      rw [List.map_cons, List.foldl_cons, ih]
      exact List.append_assoc loc [s] names

/-- Paths that part name different locations. -/
theorem nameOf_ne_of_forks (h : p.Forks q) (t : Tree) : t.nameOf p ≠ t.nameOf q := by
  obtain ⟨front, a, b, as, bs, hne, hp, hq⟩ := h
  rw [nameOf_eq, nameOf_eq, hp, hq, List.foldl_append, List.foldl_append, foldl_stepped_names,
    foldl_stepped_names]
  intro heq
  exact hne (List.cons.inj (List.append_cancel_left heq)).1

/-- Writing makes directories. It fails after that, or stores the content at the location that the
path leads to. -/
theorem write_cases (t : Tree) (p : Path) (content : Bytes) :
    ∃ made, t.Extends made ∧
      ((∃ fault, t.write p content = (.error fault, made)) ∨
        ∃ loc, made.Leads p loc ∧ made.node? loc ≠ some .directory ∧
          t.write p content = (.ok (), made.put loc (.file content))) := by
  have hextends := Extends.makeDirectories p.components.dropLast.reverse t
  unfold write
  revert hextends
  generalize t.makeDirectories p.components.dropLast.reverse = directories
  obtain ⟨result, made⟩ := directories
  intro hextends
  refine ⟨made, hextends, ?_⟩
  cases result with
  | error fault => exact Or.inl ⟨_, rfl⟩
  | ok done =>
      dsimp only
      cases hwritable : made.writable p with
      | error fault => exact Or.inl ⟨_, rfl⟩
      | ok loc =>
          obtain ⟨hleads, hfree⟩ := leads_of_writable hwritable
          exact Or.inr ⟨loc, hleads, hfree, rfl⟩

theorem content?_of_write {content : Bytes} (h : t.write p content = (.ok (), u)) :
    u.content? p = some content := by
  obtain ⟨made, -, ⟨fault, hfailed⟩ | ⟨loc, hleads, hfree, hdone⟩⟩ := t.write_cases p content
  · rw [hfailed] at h
    cases h
  · rw [hdone] at h
    cases h
    have hne : loc ≠ [] := by
      rintro rfl
      exact hfree made.node?_root
    exact content?_eq_some.2
      ⟨loc, (keepsDirectories_put hfree _).leads hleads, node?_put_self hne _ _⟩

theorem content?_of_forks {content old : Bytes} (h : p.Forks q) (hold : t.content? q = some old) :
    (t.write p content).2.content? q = some old := by
  obtain ⟨made, hextends, ⟨fault, hfailed⟩ | ⟨loc, hleads, hfree, hdone⟩⟩ := t.write_cases p content
  · rw [hfailed]
    exact hextends.content? hold
  · rw [hdone]
    obtain ⟨target, hother, hfile⟩ := content?_eq_some.1 (hextends.content? hold)
    have hne : target ≠ loc := by
      rw [hother.eq_nameOf, hleads.eq_nameOf]
      exact nameOf_ne_of_forks h.symm made
    refine content?_eq_some.2 ⟨target, (keepsDirectories_put hfree _).leads hother, ?_⟩
    rw [node?_put_of_ne hne]
    exact hfile

end Tree

instance : HoldsContents Tree where
  content? := Tree.content?
  content_write := Tree.content?_of_write
  content_write_of_forks := Tree.content?_of_forks

end LedgerMatch
