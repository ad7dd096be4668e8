import LedgerMatch.Discovery
import LedgerMatch.Files.Flat
import LedgerMatch.Proofs.Path
import LedgerMatch.Proofs.Text.Pattern

/-!
# Which files are statement files

A statement file lies in a directory that is named for its bank: its path ends in a slash, the name
of the bank, another slash and the name of the file, and neither name holds a slash. The name of the
file is something in front of a point and an extension. Every extension by which ledger files are
found is one of a statement file too, and so are those that have a long s in place of the s. The same
paths, with the same banks, are found by searching for a pattern in them.
-/

namespace LedgerMatch

/-! ### Extensions -/

/-- An extension of ledger files: csv, in any letter case. -/
def isLedgerExtension (letters : List Char) : Bool :=
  Text.sameLetters (String.ofList letters) "csv"

/-- An extension with a long s, and the other two letters in any case. -/
def isLongExtension : List Char → Bool
  | [c, 'ſ', v] => (c == 'c' || c == 'C') && (v == 'v' || v == 'V')
  | _ => false

/-- An extension of statement files, without the point. -/
def isStatementLetters (letters : List Char) : Bool :=
  isLedgerExtension letters || isLongExtension letters

theorem isLedgerExtension_iff {letters : List Char} :
    isLedgerExtension letters = true ↔ ∃ c s v, letters = [c, s, v] ∧
      (c = 'c' ∨ c = 'C') ∧ (s = 's' ∨ s = 'S') ∧ (v = 'v' ∨ v = 'V') := by
  have hcsv : "csv".toList.map Char.toLower = ['c', 's', 'v'] := by decide
  rw [isLedgerExtension, Text.sameLetters, beq_iff_eq, ← String.toList_inj, Text.toList_lower,
    Text.toList_lower, String.toList_ofList, hcsv]
  constructor
  · intro h
    have hlength := congrArg List.length h
    rw [List.length_map] at hlength
    obtain ⟨c, s, v, rfl⟩ := List.length_eq_three.1 hlength
    simp only [List.map_cons, List.map_nil, List.cons.injEq, and_true] at h
    exact ⟨c, s, v, rfl, (Text.toLower_eq_iff (by decide)).1 h.1,
      (Text.toLower_eq_iff (by decide)).1 h.2.1, (Text.toLower_eq_iff (by decide)).1 h.2.2⟩
  · rintro ⟨c, s, v, rfl, hc, hs, hv⟩
    simp only [List.map_cons, List.map_nil, List.cons.injEq, and_true]
    exact ⟨(Text.toLower_eq_iff (by decide)).2 hc, (Text.toLower_eq_iff (by decide)).2 hs,
      (Text.toLower_eq_iff (by decide)).2 hv⟩

theorem isLongExtension_iff {letters : List Char} :
    isLongExtension letters = true ↔ ∃ c v, letters = [c, 'ſ', v] ∧
      (c = 'c' ∨ c = 'C') ∧ (v = 'v' ∨ v = 'V') := by
  unfold isLongExtension
  split
  · next c v => simp
  · next hno =>
      simp only [Bool.false_eq_true, false_iff]
      rintro ⟨c, v, rfl, -⟩
      exact hno c v rfl

/-- Three letters, each from its own class. -/
theorem isStatementLetters_iff {letters : List Char} :
    isStatementLetters letters = true ↔ ∃ c s v, letters = [c, s, v] ∧
      (c = 'c' ∨ c = 'C') ∧ (s = 's' ∨ s = 'S' ∨ s = 'ſ') ∧ (v = 'v' ∨ v = 'V') := by
  rw [isStatementLetters, Bool.or_eq_true, isLedgerExtension_iff, isLongExtension_iff]
  constructor
  · rintro (⟨c, s, v, rfl, hc, hs, hv⟩ | ⟨c, v, rfl, hc, hv⟩)
    · exact ⟨c, s, v, rfl, hc, hs.imp_right Or.inl, hv⟩
    · exact ⟨c, 'ſ', v, rfl, hc, Or.inr (Or.inr rfl), hv⟩
  · rintro ⟨c, s, v, rfl, hc, hs | hs | rfl, hv⟩
    · exact Or.inl ⟨c, s, v, rfl, hc, Or.inl hs, hv⟩
    · exact Or.inl ⟨c, s, v, rfl, hc, Or.inr hs, hv⟩
    · exact Or.inr ⟨c, v, rfl, hc, hv⟩

theorem length_of_isStatementLetters {letters : List Char} (h : isStatementLetters letters = true) :
    letters.length = 3 := by
  obtain ⟨c, s, v, rfl, -⟩ := isStatementLetters_iff.1 h
  rfl

/-- An extension holds neither slashes nor points. -/
theorem plain_of_isStatementLetters {letters : List Char} (h : isStatementLetters letters = true) :
    ∀ c ∈ letters, isSlash c = false ∧ c ≠ '.' := by
  obtain ⟨c, s, v, rfl, hc, hs, hv⟩ := isStatementLetters_iff.1 h
  simp only [List.forall_mem_cons, List.not_mem_nil, false_imp_iff, implies_true, and_true]
  refine ⟨?_, ?_, ?_⟩
  · rcases hc with rfl | rfl <;> decide
  · rcases hs with rfl | rfl | rfl <;> decide
  · rcases hv with rfl | rfl <;> decide

/-- No extension is of both kinds. -/
theorem not_isLongExtension {letters : List Char} (h : isLedgerExtension letters = true) :
    isLongExtension letters = false := by
  rw [← Bool.not_eq_true, isLongExtension_iff]
  rintro ⟨c, v, rfl, -⟩
  obtain ⟨c', s, v', heq, -, hs, -⟩ := isLedgerExtension_iff.1 h
  simp only [List.cons.injEq] at heq
  rcases hs with rfl | rfl
  · exact absurd heq.2.1 (by decide)
  · exact absurd heq.2.1 (by decide)

theorem isStatementExtension_iff {cs : List Char} :
    isStatementExtension cs = true ↔ ∃ letters, cs = '.' :: letters ∧
      isStatementLetters letters = true := by
  simp only [isStatementLetters_iff]
  unfold isStatementExtension
  split
  · next c s v =>
      simp only [Bool.and_eq_true, Bool.or_eq_true, beq_iff_eq, or_assoc, and_assoc]
      constructor
      · rintro ⟨hc, hs, hv⟩
        exact ⟨[c, s, v], rfl, c, s, v, rfl, hc, hs, hv⟩
      · rintro ⟨letters, heq, c', s', v', rfl, hc, hs, hv⟩
        cases heq
        exact ⟨hc, hs, hv⟩
  · next hno =>
      simp only [Bool.false_eq_true, false_iff]
      rintro ⟨letters, rfl, c, s, v, rfl, -⟩
      exact hno c s v rfl

/-- The name of a statement file has something in front of the point. -/
theorem isStatementName_iff {name : List Char} :
    isStatementName name = true ↔ ∃ stem letters, name = stem ++ '.' :: letters ∧ stem ≠ [] ∧
      isStatementLetters letters = true := by
  rw [isStatementName, Bool.and_eq_true, decide_eq_true_eq, isStatementExtension_iff]
  constructor
  · rintro ⟨hlength, letters, hdrop, hletters⟩
    refine ⟨name.take (name.length - 4), letters, ?_, ?_, hletters⟩
    · rw [← hdrop, List.take_append_drop]
    · intro hnil
      have hstem := congrArg List.length hnil
      rw [List.length_take, List.length_nil] at hstem
      omega
  · rintro ⟨stem, letters, rfl, hstem, hletters⟩
    have hthree := length_of_isStatementLetters hletters
    have hpos := List.length_pos_iff.2 hstem
    rw [List.length_append, List.length_cons, hthree]
    refine ⟨by omega, letters, ?_, hletters⟩
    exact List.drop_left' (by omega)

/-! ### Banks and names of files -/

/-- A text that ends in a slash, a first part, another slash and a last part, neither of which holds
a slash. -/
def HasLastParts (cs code name : List Char) : Prop :=
  ∃ front first second, cs = front ++ first :: (code ++ second :: name) ∧
    isSlash first = true ∧ isSlash second = true ∧
    (∀ c ∈ code, isSlash c = false) ∧ ∀ c ∈ name, isSlash c = false

/-- The path of a file whose extension is of some kind, in a directory with the name of a bank. -/
def IsStatementPath (extension : List Char → Bool) (p : Path) (code : String) : Prop :=
  ∃ stem letters, HasLastParts p.text.toList code.toList (stem ++ '.' :: letters) ∧ code ≠ "" ∧
    stem ≠ [] ∧ extension letters = true

/-- The last two parts of a text are the last two pieces between its slashes. -/
theorem hasLastParts_iff {cs code name : List Char} :
    HasLastParts cs code name ↔
      ∃ piece pieces, (Text.cut isSlash cs).reverse = name :: code :: piece :: pieces := by
  constructor
  · rintro ⟨front, first, second, rfl, hfirst, hsecond, hcode, hname⟩
    obtain ⟨piece, pieces, hpieces⟩ := List.exists_cons_of_ne_nil
      (mt List.reverse_eq_nil_iff.1 (Text.cut_ne_nil isSlash front))
    refine ⟨piece, pieces, ?_⟩
    rw [Text.cut_append_cons hfirst, Text.cut_append_cons hsecond, Text.cut_of_none hcode,
      Text.cut_of_none hname, ← hpieces]
    simp
  · rintro ⟨piece, pieces, hpieces⟩
    rcases Text.cut_cases isSlash cs with ⟨-, hcut⟩ | ⟨rest, second, last, rfl, hsecond, hlast, hcut⟩
    · rw [hcut] at hpieces
      cases hpieces
    · rw [hcut, List.reverse_concat, List.cons.injEq] at hpieces
      obtain ⟨rfl, hrest⟩ := hpieces
      rcases Text.cut_cases isSlash rest with
        ⟨-, hcut⟩ | ⟨front, first, middle, rfl, hfirst, hmiddle, hcut⟩
      · rw [hcut] at hrest
        cases hrest
      · rw [hcut, List.reverse_concat, List.cons.injEq] at hrest
        obtain ⟨rfl, -⟩ := hrest
        exact ⟨front, first, second, by simp, hfirst, hsecond, hmiddle, hlast⟩

theorem HasLastParts.unique {cs code name code' name' : List Char} (h : HasLastParts cs code name)
    (h' : HasLastParts cs code' name') : code = code' ∧ name = name' := by
  obtain ⟨piece, pieces, hpieces⟩ := hasLastParts_iff.1 h
  obtain ⟨piece', pieces', hpieces'⟩ := hasLastParts_iff.1 h'
  rw [hpieces] at hpieces'
  simp only [List.cons.injEq] at hpieces'
  exact ⟨hpieces'.2.1, hpieces'.1⟩

/-- The bank of a path is the last but one of its parts, if the last one is the name of a statement
file. -/
theorem bankCode?_eq_some_iff {p : Path} {code : String} :
    bankCode? p = some code ↔ IsStatementPath isStatementLetters p code := by
  have hparts : bankCode? p = some code ↔ ∃ name,
      HasLastParts p.text.toList code.toList name ∧ code ≠ "" ∧ isStatementName name = true := by
    simp only [hasLastParts_iff]
    rw [bankCode?]
    split
    · next name part piece pieces hpieces =>
        simp only [hpieces, List.cons.injEq]
        constructor
        · intro h
          obtain ⟨⟨hname, hpart⟩, heq⟩ := Option.ite_none_right_eq_some.1 h
          have hcode : part = code.toList := by
            rw [← Option.some.inj heq, String.toList_ofList]
          subst hcode
          exact ⟨name, ⟨piece, pieces, rfl, rfl, rfl, rfl⟩, mt String.toList_eq_nil_iff.2 hpart, hname⟩
        · rintro ⟨name', ⟨piece', pieces', rfl, rfl, -, -⟩, hcode, hname⟩
          rw [if_pos ⟨hname, mt String.toList_eq_nil_iff.1 hcode⟩, String.ofList_toList]
    · next hno =>
        simp only [reduceCtorEq, false_iff]
        rintro ⟨name, ⟨piece, pieces, hpieces⟩, -⟩
        exact hno name code.toList piece pieces hpieces
  rw [hparts]
  simp only [isStatementName_iff]
  constructor
  · rintro ⟨name, hparts, hcode, stem, letters, rfl, hstem, hletters⟩
    exact ⟨stem, letters, hparts, hcode, hstem, hletters⟩
  · rintro ⟨stem, letters, hparts, hcode, hstem, hletters⟩
    exact ⟨_, hparts, hcode, stem, letters, rfl, hstem, hletters⟩

/-! ### The two kinds of extensions -/

section

variable {p : Path} {code : String}

/-- A statement file has an extension of ledger files or one with a long s. -/
theorem isStatementPath_iff :
    IsStatementPath isStatementLetters p code ↔
      IsStatementPath isLedgerExtension p code ∨ IsStatementPath isLongExtension p code := by
  simp only [IsStatementPath, isStatementLetters, Bool.or_eq_true, and_or_left, exists_or]

/-- A path has one extension only. -/
theorem IsStatementPath.not_long (h : IsStatementPath isLedgerExtension p code) :
    ¬ IsStatementPath isLongExtension p code := by
  obtain ⟨stem, letters, hparts, -, -, hledger⟩ := h
  rintro ⟨stem', letters', hparts', -, -, hlong⟩
  have hthree : letters.length = 3 :=
    length_of_isStatementLetters (by rw [isStatementLetters, hledger, Bool.true_or])
  have hthree' : letters'.length = 3 :=
    length_of_isStatementLetters (by rw [isStatementLetters, hlong, Bool.or_true])
  obtain ⟨-, hname⟩ := hparts.unique hparts'
  obtain ⟨-, hbehind⟩ := List.append_inj' hname (by simp [hthree, hthree'])
  rw [← (List.cons.inj hbehind).2, not_isLongExtension hledger] at hlong
  cases hlong

/-- The path of a statement file has the extension of its name. -/
theorem IsStatementPath.exists_extension {extension : List Char → Bool}
    (hextension : ∀ letters, extension letters = true → isStatementLetters letters = true)
    (h : IsStatementPath extension p code) :
    ∃ letters, p.extension? = some (String.ofList letters) ∧ extension letters = true := by
  obtain ⟨stem, letters, ⟨front, first, second, htext, -, -, -, hname⟩, -, hstem, hletters⟩ := h
  obtain ⟨inner, last, rfl⟩ := (List.eq_nil_or_concat stem).resolve_left hstem
  rw [List.concat_eq_append] at htext hname
  have hlast : last ≠ '/' := by
    rintro rfl
    exact absurd (hname '/' (by simp)) (by decide)
  have hplain := plain_of_isStatementLetters (hextension letters hletters)
  have hending : p.text.toList
      = (front ++ first :: (code.toList ++ second :: inner)) ++ last :: '.' :: letters := by
    simp [htext]
  refine ⟨letters, ?_, hletters⟩
  refine Path.extension?_of_last hending hlast ?_
    (fun hmem => absurd (hplain _ hmem).1 (by decide)) fun hmem => (hplain _ hmem).2 rfl
  rintro rfl
  exact absurd (length_of_isStatementLetters (hextension [] hletters)) (by decide)

/-- A statement file is a ledger file as well, unless it has a long s. -/
theorem IsStatementPath.isCsv_iff (h : IsStatementPath isStatementLetters p code) :
    p.isCsv = true ↔ IsStatementPath isLedgerExtension p code := by
  rw [Path.isCsv]
  constructor
  · intro hcsv
    refine (isStatementPath_iff.1 h).resolve_right fun hlong => ?_
    obtain ⟨letters, hextension, hletters⟩ := hlong.exists_extension fun letters hletters => by
      rw [isStatementLetters, hletters, Bool.or_true]
    rw [hextension] at hcsv
    rw [not_isLongExtension hcsv] at hletters
    cases hletters
  · intro hledger
    obtain ⟨letters, hextension, hletters⟩ := hledger.exists_extension fun letters hletters => by
      rw [isStatementLetters, hletters, Bool.true_or]
    rw [hextension]
    exact hletters

end

/-! ### The pattern -/

/-- The letters of the extension in the pattern. -/
def extensionPattern : List Text.Piece :=
  [.one (· == '.'), .one fun c => c == 'c' || c == 'C',
    .one fun s => s == 's' || s == 'S' || s == 'ſ', .one fun v => v == 'v' || v == 'V']

/-- The pattern of the paths of statement files. The bank is kept. -/
def statementPattern : List Text.Piece :=
  [.many (· != '\n'), .more isSlash, .group (!isSlash ·), .one isSlash, .more (!isSlash ·)]
    ++ extensionPattern

theorem matches_extensionPattern_iff {cs : List Char} {groups : List (List Char)} :
    Text.Matches extensionPattern cs groups ↔ groups = [] ∧ isStatementExtension cs = true := by
  simp only [extensionPattern, Text.matches_one_iff, Text.matches_nil_iff]
  constructor
  · rintro ⟨point, -, rfl, hpoint, c, -, rfl, hc, s, -, rfl, hs, v, -, rfl, hv, rfl, rfl⟩
    rw [eq_of_beq hpoint, isStatementExtension, hc, hs, hv]
    exact ⟨rfl, rfl⟩
  · rintro ⟨rfl, hextension⟩
    unfold isStatementExtension at hextension
    split at hextension
    · next c s v =>
        rw [Bool.and_eq_true, Bool.and_eq_true] at hextension
        exact ⟨'.', _, rfl, rfl, c, _, rfl, hextension.1.1, s, _, rfl, hextension.1.2, v, _, rfl,
          hextension.2, rfl, rfl⟩
    · cases hextension

/-- Where the pattern matches the end of a path, it keeps the bank of the path. -/
theorem exists_bank_of_matches {p : Path} {rest : List Char} {groups : List (List Char)}
    (hrest : rest <:+ p.text.toList) (h : Text.Matches statementPattern rest groups) :
    ∃ code, groups = [code.toList] ∧ IsStatementPath isStatementLetters p code := by
  obtain ⟨before, hbefore⟩ := hrest
  obtain ⟨front, afterFront, rfl, -, h⟩ := (Text.matches_cons_of_not_kept rfl).1 h
  obtain ⟨slashes, afterSlashes, rfl, hslashes, h⟩ := (Text.matches_cons_of_not_kept rfl).1 h
  obtain ⟨code, afterCode, inner, rfl, rfl, hcode, h⟩ := Text.matches_cons_iff.1 h
  obtain ⟨second, afterSecond, rfl, hsecond, h⟩ := Text.matches_one_iff.1 h
  obtain ⟨stem, extension, rfl, hstem, h⟩ := (Text.matches_cons_of_not_kept rfl).1 h
  obtain ⟨rfl, hextension⟩ := matches_extensionPattern_iff.1 h
  obtain ⟨hslashesNe, hslashes⟩ := Text.takes_more_iff.1 hslashes
  obtain ⟨hcodeNe, hcode⟩ := Text.takes_more_iff.1 hcode
  obtain ⟨hstemNe, hstem⟩ := Text.takes_more_iff.1 hstem
  obtain ⟨earlier, first, rfl⟩ := (List.eq_nil_or_concat slashes).resolve_left hslashesNe
  obtain ⟨letters, rfl, hletters⟩ := isStatementExtension_iff.1 hextension
  have hplain := plain_of_isStatementLetters hletters
  refine ⟨String.ofList code, by rw [String.toList_ofList]; rfl, stem, letters, ?_, ?_, hstemNe,
    hletters⟩
  · refine ⟨before ++ front ++ earlier, first, second, ?_, hslashes first (by simp), hsecond, ?_, ?_⟩
    · rw [← hbefore, String.toList_ofList]
      simp
    · rw [String.toList_ofList]
      exact fun c hc => Bool.not_eq_true' _ ▸ hcode c hc
    · intro c hc
      rcases List.mem_append.1 hc with hmem | hmem
      · exact Bool.not_eq_true' _ ▸ hstem c hmem
      · rcases List.mem_cons.1 hmem with rfl | hmem
        · rfl
        · exact (hplain c hmem).1
  · rw [ne_eq, ← String.toList_eq_nil_iff, String.toList_ofList]
    exact hcodeNe

theorem exists_matches_of_isStatementPath {p : Path} {code : String}
    (h : IsStatementPath isStatementLetters p code) :
    ∃ rest, rest <:+ p.text.toList ∧ Text.Matches statementPattern rest [code.toList] := by
  obtain ⟨stem, letters, ⟨front, first, second, htext, hfirst, hsecond, hcode, hname⟩, hcodeNe,
    hstem, hletters⟩ := h
  refine ⟨first :: (code.toList ++ second :: (stem ++ '.' :: letters)), ⟨front, htext.symm⟩, ?_⟩
  have hend : Text.Matches extensionPattern ('.' :: letters) [] :=
    matches_extensionPattern_iff.2 ⟨rfl, isStatementExtension_iff.2 ⟨letters, rfl, hletters⟩⟩
  have hstemPlain : ∀ c ∈ stem, (!isSlash c) = true := fun c hc => by
    rw [hname c (List.mem_append_left _ hc)]
    rfl
  have hcodePlain : ∀ c ∈ code.toList, (!isSlash c) = true := fun c hc => by
    rw [hcode c hc]
    rfl
  have hafterSecond := (Text.matches_cons_of_not_kept rfl).2
    ⟨stem, _, rfl, Text.takes_more_iff.2 ⟨hstem, hstemPlain⟩, hend⟩
  have hafterCode := Text.matches_one_iff.2 ⟨second, _, rfl, hsecond, hafterSecond⟩
  have hcodeTakes : (Text.Piece.group (!isSlash ·)).Takes code.toList :=
    Text.takes_more_iff.2 ⟨mt String.toList_eq_nil_iff.1 hcodeNe, hcodePlain⟩
  have hafterSlash := Text.Matches.cons hcodeTakes hafterCode
  have hafterFront := (Text.matches_cons_of_not_kept rfl).2
    ⟨[first], _, rfl, Text.takes_more_iff.2 ⟨by simp, by simpa using hfirst⟩, hafterSlash⟩
  exact (Text.matches_cons_of_not_kept rfl).2
    ⟨[], _, rfl, Text.takes_many_iff.2 (by simp), hafterFront⟩

/-- Searching for the pattern finds the bank of a path. -/
theorem search?_statementPattern (p : Path) :
    Text.search? statementPattern p.text.toList = (bankCode? p).map fun code => [code.toList] := by
  cases hbank : bankCode? p with
  | some code =>
      obtain ⟨rest, hrest, hmatch⟩ := exists_matches_of_isStatementPath (bankCode?_eq_some_iff.1 hbank)
      obtain ⟨found, hfound⟩ := Text.exists_search? hrest hmatch
      obtain ⟨rest', hrest', hmatch'⟩ := Text.exists_matches_of_search? hfound
      obtain ⟨code', rfl, hpath⟩ := exists_bank_of_matches hrest' hmatch'
      rw [← bankCode?_eq_some_iff, hbank] at hpath
      rw [hfound, Option.some.inj hpath]
      rfl
  | none =>
      rw [Option.map_none, ← Option.not_isSome_iff_eq_none, Option.isSome_iff_exists]
      rintro ⟨found, hfound⟩
      obtain ⟨rest, hrest, hmatch⟩ := Text.exists_matches_of_search? hfound
      obtain ⟨code, -, hpath⟩ := exists_bank_of_matches hrest hmatch
      rw [← bankCode?_eq_some_iff, hbank] at hpath
      cases hpath

/-! ### The files that are found -/

/-- A path of a statement file whose bank is taken in. -/
def Window.TakesPath (w : Window) (p : Path) : Prop :=
  ∃ code, IsStatementPath isStatementLetters p code ∧ w.acceptsBank code = true

instance (w : Window) (p : Path) : Decidable (w.TakesPath p) :=
  decidable_of_iff ((bankCode? p).any w.acceptsBank = true) (by
    simp only [Window.TakesPath, ← bankCode?_eq_some_iff, Option.any_eq_true])

theorem StatementFile.ofPath?_eq_some_iff {w : Window} {p : Path} {file : StatementFile} :
    ofPath? w p = some file ↔ ∃ code, IsStatementPath isStatementLetters p code ∧
      w.acceptsBank code = true ∧ file = ⟨Text.upper code, p⟩ := by
  simp only [← bankCode?_eq_some_iff]
  rw [ofPath?]
  cases bankCode? p with
  | none => simp
  | some code =>
      simp only [Option.some.injEq, exists_eq_left', Option.ite_none_right_eq_some]
      exact and_congr_right fun _ => eq_comm

/-- A path is kept for a file if and only if it is taken in. -/
theorem StatementFile.map_path_ofPath? (w : Window) (p : Path) :
    (ofPath? w p).map StatementFile.path = Option.guard (fun p => w.TakesPath p) p := by
  by_cases htakes : w.TakesPath p
  · obtain ⟨code, hpath, haccepts⟩ := htakes
    rw [ofPath?_eq_some_iff.2 ⟨code, hpath, haccepts, rfl⟩, Option.guard,
      if_pos (decide_eq_true ⟨code, hpath, haccepts⟩)]
    rfl
  · rw [Option.guard, if_neg (by simpa using htakes), Option.map_eq_none_iff,
      ← Option.not_isSome_iff_eq_none, Option.isSome_iff_exists]
    rintro ⟨file, hfile⟩
    obtain ⟨code, hpath, haccepts, -⟩ := ofPath?_eq_some_iff.1 hfile
    exact htakes ⟨code, hpath, haccepts⟩

/-- The bank of a path is found if and only if the path is that of a statement file, which is what
searching for the pattern finds. The extension is one of ledger files unless it has a long s, and
just then the file is no ledger file. The statement files that are found below a root are, in the
order of the paths, those whose banks are taken in, each with its bank written large. -/
theorem statementFiles_are_statement_paths {φ : Type} [FileSystem φ] {fs : φ} {root : Path}
    {paths : List Path} (h : FileSystem.walk fs root = .ok paths) (w : Window) :
    (∀ p code, bankCode? p = some code ↔ IsStatementPath isStatementLetters p code) ∧
    (∀ p, Text.search? statementPattern p.text.toList
      = (bankCode? p).map fun code => [code.toList]) ∧
    (∀ p code, (bankCode? p = some code ↔ IsStatementPath isLedgerExtension p code) ↔
      ¬ IsStatementPath isLongExtension p code) ∧
    (∀ p code, bankCode? p = some code →
      (p.isCsv = true ↔ IsStatementPath isLedgerExtension p code)) ∧
    ∃ files, statementFiles fs root w = .ok files ∧
      files.map StatementFile.path = paths.filter (fun p => w.TakesPath p) ∧
      ∀ file ∈ files, ∃ code, IsStatementPath isStatementLetters file.path code ∧
        w.acceptsBank code = true ∧ file.bank = Text.upper code := by
  refine ⟨fun p code => bankCode?_eq_some_iff, search?_statementPattern, ?_, ?_, ?_⟩
  · intro p code
    rw [bankCode?_eq_some_iff, isStatementPath_iff]
    constructor
    · intro hsame hlong
      exact (hsame.1 (Or.inr hlong)).not_long hlong
    · intro hno
      exact or_iff_left hno
  · intro p code hbank
    exact (bankCode?_eq_some_iff.1 hbank).isCsv_iff
  · refine ⟨paths.filterMap (StatementFile.ofPath? w), by rw [statementFiles, h], ?_, ?_⟩
    · rw [List.map_filterMap, funext (StatementFile.map_path_ofPath? w)]
      exact congrFun List.filterMap_eq_filter paths
    · intro file hfile
      obtain ⟨p, -, hp⟩ := List.mem_filterMap.1 hfile
      obtain ⟨code, hpath, haccepts, rfl⟩ := StatementFile.ofPath?_eq_some_iff.1 hp
      exact ⟨code, hpath, haccepts, rfl⟩

def longPath : Path := ⟨"/bank/bca/a.cſv"⟩

/-- Files with the extension csv, one of them with a long s, and a file with another extension. -/
def mixedExtensions : FlatFiles :=
  .ofList [(longPath, []), (⟨"/bank/bca/b.CSV"⟩, []), (⟨"/bank/bca/c.txt"⟩, []),
    (⟨"/bank/old\\bca\\d.csv"⟩, [])]

def dayWindow : Window := ⟨⟨2025, 5, 20, by decide⟩, ⟨2025, 5, 20, by decide⟩, ["Bca"]⟩

theorem mixedExtensions_are_statement_paths :
    FileSystem.walk mixedExtensions (⟨"/bank"⟩ : Path)
        = .ok [longPath, ⟨"/bank/bca/b.CSV"⟩, ⟨"/bank/bca/c.txt"⟩, ⟨"/bank/old\\bca\\d.csv"⟩] ∧
      ∃ files, statementFiles mixedExtensions ⟨"/bank"⟩ dayWindow = .ok files ∧
        files.map StatementFile.path
          = [longPath, ⟨"/bank/bca/b.CSV"⟩, ⟨"/bank/old\\bca\\d.csv"⟩] := by
  have hwalk : FileSystem.walk mixedExtensions (⟨"/bank"⟩ : Path)
      = .ok [longPath, ⟨"/bank/bca/b.CSV"⟩, ⟨"/bank/bca/c.txt"⟩, ⟨"/bank/old\\bca\\d.csv"⟩] := by
    decide +kernel
  obtain ⟨-, -, -, -, files, hfiles, hpaths, -⟩ :=
    statementFiles_are_statement_paths hwalk dayWindow
  exact ⟨hwalk, files, hfiles, hpaths.trans (by decide +kernel)⟩

/-- A file with a long s is a statement file, though its extension is none of ledger files. -/
theorem longPath_is_no_ledger_file :
    bankCode? longPath = some "bca" ∧ longPath.isCsv = false ∧
      ¬ ∀ p code, bankCode? p = some code ↔ IsStatementPath isLedgerExtension p code := by
  have hbank : bankCode? longPath = some "bca" := by decide +kernel
  have hcsv : longPath.isCsv = false := by decide +kernel
  refine ⟨hbank, hcsv, fun h => ?_⟩
  have hledger := (bankCode?_eq_some_iff.1 hbank).isCsv_iff.2 ((h longPath "bca").1 hbank)
  rw [hcsv] at hledger
  cases hledger

end LedgerMatch
