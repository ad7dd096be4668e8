import LedgerMatch.Layout.Registry
import LedgerMatch.Proofs.Intake.Canonical

/-!
# Which maker is asked for a reader

After any calls that register makers, the reader of a bank comes from the maker of the last call
under the code of the bank, in any spelling of it. A bank without such a call is read by the maker
of the last call under DEFAULT, and refused if there is none either. Makers are given the canonical
code, and the readers that the three layouts make for it, as well as the lines that these read, have
that code.
-/

namespace LedgerMatch.Registry

/-- The registry after makers are registered under codes, one call after the other. -/
def ofCalls (calls : List (String × ReaderMaker)) : Registry :=
  calls.foldl (fun registry call => registry.register call.1 call.2) empty

/-- Some call registers a maker under the code, in any spelling of the code. -/
def IsRegistered (calls : List (String × ReaderMaker)) (code : String) : Prop :=
  ∃ call ∈ calls, canonicalBank call.1 = canonicalBank code

/-- The last call that registers a maker under the code registers this one. -/
def IsLast (calls : List (String × ReaderMaker)) (code : String) (maker : ReaderMaker) : Prop :=
  ∃ before spelling after, calls = before ++ (spelling, maker) :: after ∧
    canonicalBank spelling = canonicalBank code ∧ ¬ IsRegistered after code

/-- The maker that is asked for the reader of a bank: the last one of its own, else the last one that
is registered as the default. -/
def IsChosen (calls : List (String × ReaderMaker)) (code : String) (maker : ReaderMaker) : Prop :=
  IsLast calls code maker ∨ ¬ IsRegistered calls code ∧ IsLast calls "DEFAULT" maker

instance (calls : List (String × ReaderMaker)) (code : String) :
    Decidable (IsRegistered calls code) :=
  inferInstanceAs (Decidable (∃ call ∈ calls, canonicalBank call.1 = canonicalBank code))

/-! ### One call -/

section

variable {registry : Registry} {maker : ReaderMaker} {code key : String}

/-- What is left out under one key is not missed under another. -/
theorem lookup_filter_ne {makers : List (String × ReaderMaker)} {other : String}
    (h : key ≠ other) : (makers.filter (·.1 != other)).lookup key = makers.lookup key := by
  induction makers with
  | nil => rfl
  | cons first makers ih =>
      by_cases hfirst : first.1 = other
      · have hkey : (key == first.1) = false := by
          rw [hfirst]
          exact beq_false_of_ne h
        rw [List.filter_cons_of_neg (by simp [hfirst]), ih, List.lookup_cons, hkey]
      · rw [List.filter_cons_of_pos (by simp [hfirst]), List.lookup_cons, List.lookup_cons, ih]

/-- A call leaves the makers under other codes as they are. -/
theorem lookup_register_of_ne (h : key ≠ canonicalBank code) :
    (registry.register code maker).makers.lookup key = registry.makers.lookup key := by
  rw [register, List.lookup_cons, beq_false_of_ne h]
  exact lookup_filter_ne h

end

/-! ### All calls -/

section

variable {call : String × ReaderMaker} {calls : List (String × ReaderMaker)} {code : String}
  {maker : ReaderMaker}

theorem isRegistered_cons :
    IsRegistered (call :: calls) code ↔
      canonicalBank call.1 = canonicalBank code ∨ IsRegistered calls code := by
  rw [IsRegistered, IsRegistered, List.exists_mem_cons_iff]

/-- The first call counts if no later one is under its code. -/
theorem isLast_cons :
    IsLast (call :: calls) code maker ↔
      IsLast calls code maker ∨
        ¬ IsRegistered calls code ∧ canonicalBank call.1 = canonicalBank code ∧ call.2 = maker := by
  constructor
  · rintro ⟨before, spelling, after, hcalls, hspelling, hafter⟩
    cases before with
    | nil =>
        cases hcalls
        exact .inr ⟨hafter, hspelling, rfl⟩
    | cons first before =>
        cases hcalls
        exact .inl ⟨before, spelling, after, rfl, hspelling, hafter⟩
  · rintro (⟨before, spelling, after, rfl, hspelling, hafter⟩ | ⟨hnever, hspelling, rfl⟩)
    · exact ⟨call :: before, spelling, after, rfl, hspelling, hafter⟩
    · exact ⟨[], call.1, calls, rfl, hspelling, hnever⟩

/-- A code that is registered is registered by some last call. -/
theorem exists_isLast (h : IsRegistered calls code) : ∃ maker, IsLast calls code maker := by
  induction calls with
  | nil =>
      obtain ⟨call, hcall, -⟩ := h
      cases hcall
  | cons call calls ih =>
      by_cases hlater : IsRegistered calls code
      · obtain ⟨maker, hlast⟩ := ih hlater
        exact ⟨maker, isLast_cons.2 (.inl hlast)⟩
      · have hown := (isRegistered_cons.1 h).resolve_right hlater
        exact ⟨call.2, isLast_cons.2 (.inr ⟨hlater, hown, rfl⟩)⟩

theorem IsLast.isRegistered (h : IsLast calls code maker) : IsRegistered calls code := by
  obtain ⟨before, spelling, after, rfl, hspelling, -⟩ := h
  exact ⟨(spelling, maker), List.mem_append_right _ List.mem_cons_self, hspelling⟩

/-- The maker under a code is the last one that is registered under it, or one that was there before,
if none is. -/
theorem lookup_foldl_register (registry : Registry) :
    (calls.foldl (fun registry call => registry.register call.1 call.2) registry).makers.lookup
        (canonicalBank code) = some maker ↔
      IsLast calls code maker ∨
        ¬ IsRegistered calls code ∧ registry.makers.lookup (canonicalBank code) = some maker := by
  induction calls generalizing registry with
  | nil =>
      have hlast : ¬ IsLast [] code maker := by
        intro h
        obtain ⟨call, hcall, -⟩ := h.isRegistered
        cases hcall
      have hnever : ¬ IsRegistered [] code := by
        rintro ⟨call, hcall, -⟩
        cases hcall
      rw [List.foldl_nil, or_iff_right hlast, and_iff_right hnever]
  | cons call calls ih =>
      rw [List.foldl_cons, ih, isLast_cons, isRegistered_cons]
      by_cases hcall : canonicalBank call.1 = canonicalBank code
      · rw [lookup_register_self hcall.symm, Option.some_inj]
        simp only [hcall, true_or, not_true_eq_false, true_and, false_and, or_false]
      · rw [lookup_register_of_ne (Ne.symm hcall)]
        simp only [hcall, false_or, false_and, and_false, or_false]

theorem lookup_ofCalls :
    (ofCalls calls).makers.lookup (canonicalBank code) = some maker ↔ IsLast calls code maker := by
  rw [ofCalls, lookup_foldl_register, empty, List.lookup_nil]
  simp only [reduceCtorEq, and_false, or_false]

theorem lookup_ofCalls_eq_none :
    (ofCalls calls).makers.lookup (canonicalBank code) = none ↔ ¬ IsRegistered calls code := by
  rw [Option.eq_none_iff_forall_ne_some]
  constructor
  · intro hnone hregistered
    obtain ⟨maker, hlast⟩ := exists_isLast hregistered
    exact hnone maker (lookup_ofCalls.2 hlast)
  · intro hnever maker hmaker
    exact hnever (lookup_ofCalls.1 hmaker).isRegistered

theorem canonicalBank_default : canonicalBank "DEFAULT" = "DEFAULT" := by decide +kernel

theorem contains_ofCalls : (ofCalls calls).contains code = true ↔ IsRegistered calls code := by
  rw [contains, ← not_iff_not, ← lookup_ofCalls_eq_none, Option.isSome_iff_ne_none, not_not]

/-! ### Readers -/

/-- The chosen maker is asked, with the canonical code. -/
theorem reader_of_isChosen (h : IsChosen calls code maker) :
    (ofCalls calls).reader code = maker (canonicalBank code) := by
  rcases h with hown | ⟨hnever, hdefault⟩
  · rw [reader, lookup_ofCalls.2 hown, Option.some_or]
  · have hlookup := lookup_ofCalls.2 hdefault
    rw [canonicalBank_default] at hlookup
    rw [reader, lookup_ofCalls_eq_none.2 hnever, Option.none_or, hlookup]

/-- Without a maker of its own and a default one, a bank is refused. -/
theorem reader_of_not_isRegistered (hown : ¬ IsRegistered calls code)
    (hdefault : ¬ IsRegistered calls "DEFAULT") :
    (ofCalls calls).reader code = .error (.noReader (canonicalBank code)) := by
  have hlookup := lookup_ofCalls_eq_none.2 hdefault
  rw [canonicalBank_default] at hlookup
  rw [reader, lookup_ofCalls_eq_none.2 hown, Option.none_or, hlookup]

/-- A layout that is chosen for a bank makes a reader for the code of the bank. -/
theorem reader_of_isChosen_ofLayout {kind : StatementKind} {layout : StatementLayout}
    {headerMode : Bool → Bool} (h : IsChosen calls code (.ofLayout kind layout headerMode)) :
    (ofCalls calls).reader code = .ok (.ofLayout kind layout headerMode code) := by
  rw [reader_of_isChosen h, ReaderMaker.ofLayout, StatementReader.ofLayout_canonicalBank]

theorem exists_isChosen (h : IsRegistered calls code ∨ IsRegistered calls "DEFAULT") :
    ∃ maker, IsChosen calls code maker := by
  by_cases hown : IsRegistered calls code
  · obtain ⟨maker, hlast⟩ := exists_isLast hown
    exact ⟨maker, .inl hlast⟩
  · obtain ⟨maker, hlast⟩ := exists_isLast (h.resolve_left hown)
    exact ⟨maker, .inr ⟨hown, hlast⟩⟩

end

/-- After any calls, a reader is made by the last maker of the bank's own, else by the last default
one, from the canonical code; without either the bank is refused under that code. A reader of a
layout, such as one of the three kinds, has the canonical code, and so has every line that it reads. A
bank is contained if and only if some call is under its code. -/
theorem reader_after_registrations (calls : List (String × ReaderMaker)) (code : String) :
    (∀ maker, IsChosen calls code maker →
      (ofCalls calls).reader code = maker (canonicalBank code)) ∧
    (IsRegistered calls code ∨ IsRegistered calls "DEFAULT" →
      ∃ maker, IsChosen calls code maker) ∧
    (¬ IsRegistered calls code → ¬ IsRegistered calls "DEFAULT" →
      (ofCalls calls).reader code = .error (.noReader (canonicalBank code))) ∧
    (∀ kind layout headerMode, IsChosen calls code (.ofLayout kind layout headerMode) → ∃ reader,
      (ofCalls calls).reader code = .ok reader ∧ reader.kind = kind ∧
      reader.bank = canonicalBank code ∧
      ∀ hasHeader file source lines, (reader.read hasHeader file source).1 = .ok lines →
        ∀ l ∈ lines, l.bank = canonicalBank code) ∧
    ((ofCalls calls).contains code = true ↔ IsRegistered calls code) := by
  refine ⟨?_, exists_isChosen, reader_of_not_isRegistered, ?_, contains_ofCalls⟩
  · intro maker hchosen
    exact reader_of_isChosen hchosen
  · intro kind layout headerMode hchosen
    refine ⟨_, reader_of_isChosen_ofLayout hchosen, rfl, rfl, ?_⟩
    intro hasHeader file source lines hread l hl
    rw [StatementReader.bank_of_mem_read hread hl]
    exact Text.upper_upper _

/-- The three layouts under their own codes, then a layout for one more bank, and another one as the
default, in spellings with blanks around them. -/
def laterCalls : List (String × ReaderMaker) :=
  [("BCA", .ofKind .bca), ("BNI", .ofKind .bni), ("DEFAULT", .ofKind .general),
    ("mandiri", .ofKind .bni), (" default\t", .ofKind .bca)]

/-- A bank without a maker is read by the later default one, and letters beyond the alphabet keep
their case. -/
theorem replacedDefault_reads :
    ofCalls laterCalls
        = (standard.register "mandiri" (.ofKind .bni)).register " default\t" (.ofKind .bca) ∧
      IsChosen laterCalls "\u3000ünï " (.ofKind .bca) ∧
      (ofCalls laterCalls).reader "\u3000ünï " = .ok (.ofKind .bca "\u3000ünï ") ∧
      (StatementReader.ofKind .bca "\u3000ünï ").bank = "üNï" ∧
      (∃ lines, ((StatementReader.ofKind .bca "\u3000ünï ").read true untidyPath
          (.whole untidyStatement)).1 = .ok lines ∧
        lines.length = 2 ∧ ∀ l ∈ lines, l.bank = "üNï") ∧
      (ofCalls laterCalls).contains "Mandiri\n" = true ∧
      (ofCalls [("BCA", .ofKind .bca)]).reader " bni" = .error (.noReader "BNI") := by
  obtain ⟨-, -, -, hkind, -⟩ := reader_after_registrations laterCalls "\u3000ünï "
  obtain ⟨-, -, -, -, hcontains⟩ := reader_after_registrations laterCalls "Mandiri\n"
  obtain ⟨-, -, hrefused, -, -⟩ := reader_after_registrations [("BCA", .ofKind .bca)] " bni"
  have hcode : canonicalBank "\u3000ünï " = "üNï" := by decide +kernel
  have hchosen : IsChosen laterCalls "\u3000ünï " (.ofKind .bca) := by
    refine .inr ⟨by decide +kernel, ?_⟩
    exact ⟨laterCalls.take 4, " default\t", [], rfl, by decide +kernel, by decide +kernel⟩
  obtain ⟨reader, hreader, -, -, hlines⟩ := hkind .bca _ _ hchosen
  obtain rfl : reader = .ofKind .bca "\u3000ünï " :=
    Except.ok.inj (hreader.symm.trans (reader_of_isChosen_ofLayout hchosen))
  have hread : ((StatementReader.ofKind .bca "\u3000ünï ").read true untidyPath
      (.whole untidyStatement)).1 = .ok (untidyLines.map fun l => { l with bank := "üNï" }) := by
    decide +kernel
  rw [hcode] at hlines
  exact ⟨rfl, hchosen, hreader, hcode, ⟨_, hread, rfl, hlines _ _ _ _ hread⟩,
    hcontains.2 (by decide +kernel), hrefused (by decide +kernel) (by decide +kernel)⟩

end LedgerMatch.Registry
