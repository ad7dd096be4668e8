import LedgerMatch.Path.Order
import LedgerMatch.Proofs.Common
import LedgerMatch.Proofs.Text.Letter

/-!
# Paths and their roots

A file name without a slash is the last component of the path of the file in its directory. Paths that
part at a name are different, and neither of them lies below the other.
-/

namespace LedgerMatch

namespace Path

variable {p q r : Path}

/-! ### Paths below a root -/

theorem isBelow_iff : p.isBelow q = true ↔ q.components <+: p.components := by
  rw [isBelow, List.isPrefixOf_iff_prefix]

theorem isBelow_congr (h : p.same q = true) (root : Path) : p.isBelow root = q.isBelow root := by
  rw [isBelow, isBelow, same_iff.1 h]

/-- Nothing lies below two roots of which neither lies below the other. -/
theorem not_below_both (hp : p.isBelow q = false) (hq : q.isBelow p = false) (r : Path) :
    ¬ (r.isBelow p = true ∧ r.isBelow q = true) := by
  rintro ⟨hrp, hrq⟩
  rw [← Bool.not_eq_true, isBelow_iff] at hp hq
  rw [isBelow_iff] at hrp hrq
  rcases List.prefix_or_prefix_of_prefix hrp hrq with h | h
  · exact hq h
  · exact hp h

/-! ### Files in directories -/

theorem cut_of_plain {name : List Char} (hname : '/' ∉ name) :
    Text.cut (· == '/') name = [name] := by
  apply Text.cut_of_none
  intro c hc
  rw [beq_eq_false_iff_ne]
  exact fun heq => hname (heq ▸ hc)

theorem cut_slash (cs : List Char) :
    Text.cut (· == '/') ('/' :: cs) = [] :: Text.cut (· == '/') cs :=
  Text.cut_append_cons (by decide) [] cs

theorem cut_append_cons {cs name : List Char} (hname : '/' ∉ name) :
    Text.cut (· == '/') (cs ++ '/' :: name) = Text.cut (· == '/') cs ++ [name] := by
  rw [Text.cut_append_cons (by decide), cut_of_plain hname]

/-- The components of the parts of a path that is not absolute. -/
def componentsOfParts : List (List Char) → List PathComponent
  | ['.'] :: parts => .current :: parts.filterMap PathComponent.ofPart?
  | parts => parts.filterMap PathComponent.ofPart?

theorem componentsOf_cons {c : Char} (hc : c ≠ '/') (cs : List Char) :
    componentsOf (c :: cs) = componentsOfParts (Text.cut (· == '/') (c :: cs)) := by
  unfold componentsOf componentsOfParts
  split
  · next h => cases h
  · next h =>
      cases h
      exact (hc rfl).elim
  · rfl

theorem filterMap_concat {α β : Type} (f : α → Option β) (as : List α) (a : α) :
    (as ++ [a]).filterMap f = as.filterMap f ++ (f a).toList := by
  rw [List.filterMap_append]
  cases h : f a <;> simp [h]

theorem componentsOfParts_append {parts : List (List Char)} (hparts : parts ≠ [])
    (name : List Char) :
    componentsOfParts (parts ++ [name])
      = componentsOfParts parts ++ (PathComponent.ofPart? name).toList := by
  cases parts with
  | nil => exact (hparts rfl).elim
  | cons first rest =>
      by_cases hdot : first = ['.']
      · subst hdot
        show PathComponent.current :: (rest ++ [name]).filterMap PathComponent.ofPart? = _
        rw [filterMap_concat]
        rfl
      · have hfirst : ∀ tail, componentsOfParts (first :: tail)
            = (first :: tail).filterMap PathComponent.ofPart? := by
          intro tail
          unfold componentsOfParts
          split
          · next h =>
              cases h
              exact (hdot rfl).elim
          · rfl
        rw [List.cons_append, hfirst, hfirst, ← List.cons_append, filterMap_concat]

/-- What stands behind the last slash is one more component, or none. -/
theorem componentsOf_append_cons {cs name : List Char} (hcs : cs ≠ []) (hname : '/' ∉ name) :
    componentsOf (cs ++ '/' :: name)
      = componentsOf cs ++ (PathComponent.ofPart? name).toList := by
  cases cs with
  | nil => exact (hcs rfl).elim
  | cons c rest =>
      by_cases hslash : c = '/'
      · subst hslash
        show PathComponent.root :: (Text.cut (· == '/') (rest ++ '/' :: name)).filterMap
          PathComponent.ofPart? = _
        rw [cut_append_cons hname, filterMap_concat]
        rfl
      · rw [List.cons_append, componentsOf_cons hslash, componentsOf_cons hslash,
          ← List.cons_append, cut_append_cons hname,
          componentsOfParts_append (Text.cut_ne_nil _ _)]

theorem ofPart?_of_long {name : List Char} (h : 3 ≤ name.length) :
    PathComponent.ofPart? name = some (.name (String.ofList name)) := by
  have hnil : name ≠ [] := by rintro rfl; simp at h
  have hdot : name ≠ ['.'] := by rintro rfl; simp at h
  have hdots : name ≠ ['.', '.'] := by rintro rfl; simp at h
  simp [PathComponent.ofPart?, hnil, hdot, hdots]

theorem componentsOf_name {name : List Char} (hname : '/' ∉ name) (hlong : 3 ≤ name.length) :
    componentsOf name = [.name (String.ofList name)] := by
  cases name with
  | nil => cases hlong
  | cons c rest =>
      have hc : c ≠ '/' := fun heq => hname (heq ▸ List.mem_cons_self)
      have hdot : c :: rest ≠ ['.'] := by
        intro heq
        rw [heq] at hlong
        exact absurd hlong (by decide)
      rw [componentsOf_cons hc, cut_of_plain hname]
      unfold componentsOfParts
      split
      · next h => exact (hdot (List.cons.inj h).1).elim
      · simp [ofPart?_of_long hlong]

/-- The name of a file is what stands behind the last slash of its path. -/
theorem fileName?_of_last {p : Path} {last : List Char} (hlast : '/' ∉ last)
    (hlong : 3 ≤ last.length)
    (h : p.text.toList = last ∨ ∃ front, p.text.toList = front ++ '/' :: last) :
    p.fileName? = some (String.ofList last) := by
  suffices hcomponents : ∃ front, p.components = front ++ [.name (String.ofList last)] by
    obtain ⟨front, hfront⟩ := hcomponents
    rw [fileName?, hfront, List.getLast?_concat]
  rw [components]
  rcases h with htext | ⟨front, htext⟩
  · rw [htext, componentsOf_name hlast hlong]
    exact ⟨[], rfl⟩
  · rw [htext]
    by_cases hfront : front = []
    · subst hfront
      refine ⟨[.root], ?_⟩
      show PathComponent.root :: (Text.cut (· == '/') last).filterMap PathComponent.ofPart? = _
      rw [cut_of_plain hlast, List.filterMap_cons_some (ofPart?_of_long hlong)]
      rfl
    · rw [componentsOf_append_cons hfront hlast, ofPart?_of_long hlong]
      exact ⟨_, rfl⟩

/-- The extension of a path is what stands behind its last point, if that is in the name of the file
and something of the name is in front of it. -/
theorem extension?_of_last {p : Path} {front letters : List Char} {c : Char}
    (h : p.text.toList = front ++ c :: '.' :: letters) (hc : c ≠ '/') (hne : letters ≠ [])
    (hslash : '/' ∉ letters) (hpoint : '.' ∉ letters) :
    p.extension? = some (String.ofList letters) := by
  obtain ⟨inner, hplain, hlast⟩ : ∃ inner, '/' ∉ inner ∧
      (p.text.toList = inner ++ c :: '.' :: letters ∨
        ∃ before, p.text.toList = before ++ '/' :: (inner ++ c :: '.' :: letters)) := by
    rcases Text.cut_cases (· == '/') front with ⟨hno, -⟩ | ⟨before, d, inner, rfl, hd, hno, -⟩
    · exact ⟨front, fun hmem => absurd (hno _ hmem) (by decide), Or.inl h⟩
    · refine ⟨inner, fun hmem => absurd (hno _ hmem) (by decide), Or.inr ⟨before, ?_⟩⟩
      rw [h, eq_of_beq hd, List.append_assoc, List.cons_append]
  have hpos := List.length_pos_iff.2 hne
  have hname : p.fileName? = some (String.ofList (inner ++ c :: '.' :: letters)) := by
    refine fileName?_of_last ?_ ?_ hlast
    · simp [hplain, hc.symm, hslash]
    · simp only [List.length_append, List.length_cons]
      omega
  have hbehind : ((inner ++ c :: '.' :: letters).reverse.takeWhile (· != '.')).reverse = letters := by
    have hall : ∀ d ∈ letters.reverse, (d != '.') = true := by
      intro d hd
      rw [bne_iff_ne]
      exact fun heq => hpoint (heq ▸ List.mem_reverse.1 hd)
    rw [List.reverse_append, List.reverse_cons, List.reverse_cons, List.append_assoc,
      List.append_assoc, List.takeWhile_append_of_pos hall]
    simp
  rw [extension?, hname, Option.bind_some]
  dsimp only
  rw [String.toList_ofList, hbehind, if_pos]
  simp only [List.length_append, List.length_cons]
  omega

theorem join_of_relative {dir file : Path} (hfile : Text.IsPlain file.text) :
    dir.join file = if dir.text = "" ∨ dir.text.toList.getLast? = some '/'
      then ⟨dir.text ++ file.text⟩ else ⟨dir.text ++ "/" ++ file.text⟩ := by
  have hrelative : file.isAbsolute = false := by
    rw [isAbsolute, beq_eq_false_iff_ne]
    exact fun hhead => hfile (List.mem_of_mem_head? hhead)
  rw [join, hrelative]
  rfl

/-- A file in a directory has one more component, its name. -/
theorem components_join (dir : Path) {file : Path} (hfile : Text.IsPlain file.text)
    (hlong : 3 ≤ file.text.toList.length) :
    (dir.join file).components = dir.components ++ [.name file.text] := by
  have hname := ofPart?_of_long hlong
  rw [String.ofList_toList] at hname
  rw [join_of_relative hfile]
  split
  · next hdir =>
      show componentsOf (dir.text ++ file.text).toList = componentsOf dir.text.toList ++ _
      rw [String.toList_append]
      by_cases hempty : dir.text = ""
      · rw [hempty]
        show componentsOf ([] ++ file.text.toList) = _
        rw [List.nil_append, componentsOf_name hfile hlong, String.ofList_toList]
        rfl
      · obtain ⟨front, hfront⟩ := List.getLast?_eq_some_iff.1 (hdir.resolve_left hempty)
        rw [hfront, List.append_assoc, List.singleton_append]
        cases front with
        | nil =>
            show PathComponent.root :: (Text.cut (· == '/') file.text.toList).filterMap
              PathComponent.ofPart? = _
            rw [cut_of_plain hfile, List.filterMap_cons_some hname]
            rfl
        | cons c rest =>
            rw [componentsOf_append_cons (List.cons_ne_nil _ _) hfile,
              componentsOf_append_cons (List.cons_ne_nil _ _) List.not_mem_nil, hname]
            simp [PathComponent.ofPart?]
  · next hdir =>
      have hlist : (dir.text ++ "/" ++ file.text).toList
          = dir.text.toList ++ '/' :: file.text.toList := by
        simp [String.toList_append]
      have hne : dir.text.toList ≠ [] := by
        intro hnil
        exact hdir (Or.inl (String.toList_inj.1 hnil))
      show componentsOf (dir.text ++ "/" ++ file.text).toList = componentsOf dir.text.toList ++ _
      rw [hlist, componentsOf_append_cons hne hfile, hname]
      rfl

theorem isBelow_join (dir : Path) {file : Path} (hfile : Text.IsPlain file.text)
    (hlong : 3 ≤ file.text.toList.length) : (dir.join file).isBelow dir = true := by
  rw [isBelow_iff, components_join dir hfile hlong]
  exact List.prefix_append _ _

/-! ### Paths that part -/

/-- Paths that part at a name and lead only further down from there. -/
def Forks (p q : Path) : Prop :=
  ∃ (front : List PathComponent) (a b : String) (as bs : List String), a ≠ b ∧
    p.components = front ++ (a :: as).map .name ∧ q.components = front ++ (b :: bs).map .name

theorem Forks.symm (h : p.Forks q) : q.Forks p := by
  obtain ⟨front, a, b, as, bs, hne, hp, hq⟩ := h
  exact ⟨front, b, a, bs, as, hne.symm, hq, hp⟩

theorem Forks.not_same (h : p.Forks q) : p.same q = false := by
  obtain ⟨front, a, b, as, bs, hne, hp, hq⟩ := h
  rw [← Bool.not_eq_true, same_iff, hp, hq]
  intro heq
  have hnames := List.append_cancel_left heq
  exact hne (PathComponent.name.inj (List.cons.inj hnames).1)

/-- Neither of two paths that part lies below the other. -/
theorem Forks.not_isBelow (h : p.Forks q) : q.isBelow p = false := by
  obtain ⟨front, a, b, as, bs, hne, hp, hq⟩ := h
  rw [← Bool.not_eq_true, isBelow_iff, hp, hq, List.prefix_append_right_inj, List.map_cons,
    List.map_cons, List.cons_prefix_cons]
  exact fun hprefix => hne (PathComponent.name.inj hprefix.1)

/-- Paths with equally many and different names behind a common front part at one of the names. -/
theorem forks_of_names {front : List PathComponent} {as bs : List String}
    (hp : p.components = front ++ as.map .name) (hq : q.components = front ++ bs.map .name)
    (hlength : as.length = bs.length) (hne : as ≠ bs) : p.Forks q := by
  induction as generalizing front bs with
  | nil => exact (hne (List.length_eq_zero_iff.1 hlength.symm).symm).elim
  | cons a as ih =>
      cases bs with
      | nil => cases hlength
      | cons b bs =>
          by_cases hab : a = b
          · subst hab
            rw [List.map_cons, ← List.singleton_append, ← List.append_assoc] at hp hq
            refine ih hp hq (Nat.succ.inj hlength) fun heq => hne (by rw [heq])
          · exact ⟨front, a, b, as, bs, hab, hp, hq⟩

end Path

end LedgerMatch
