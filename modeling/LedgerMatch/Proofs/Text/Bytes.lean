import LedgerMatch.Text.Bytes

/-!
# Characters as bytes

A text is stored one character after the other. The characters of ASCII take one byte each, their
number; all bytes of the others are at least 128. So a byte of ASCII stands for its character
wherever it is found.
-/

namespace LedgerMatch.Text

/-- The bytes of characters, one after the other. -/
def encodeChars (cs : List Char) : Bytes := cs.flatMap String.utf8EncodeChar

theorem encode_ofList (cs : List Char) : encode (String.ofList cs) = encodeChars cs := by
  rw [encode, String.toUTF8_eq_toByteArray, String.toByteArray_ofList, List.utf8Encode,
    List.data_toByteArray, encodeChars]

theorem encode_eq_encodeChars (s : String) : encode s = encodeChars s.toList := by
  rw [← encode_ofList, String.ofList_toList]

theorem encodeChars_nil : encodeChars [] = [] := rfl

theorem encodeChars_cons (c : Char) (cs : List Char) :
    encodeChars (c :: cs) = String.utf8EncodeChar c ++ encodeChars cs := rfl

theorem encodeChars_append (cs ds : List Char) :
    encodeChars (cs ++ ds) = encodeChars cs ++ encodeChars ds :=
  List.flatMap_append

theorem encodeChars_eq_nil {cs : List Char} : encodeChars cs = [] ↔ cs = [] := by
  cases cs with
  | nil => simp [encodeChars_nil]
  | cons c cs => simp [encodeChars_cons, String.utf8EncodeChar_ne_nil]

/-! ### Characters of ASCII -/

/-- The bytes of a character are its number, or at least 128. -/
theorem toNat_of_mem_utf8EncodeChar {b : UInt8} {c : Char} (h : b ∈ String.utf8EncodeChar c) :
    b.toNat = c.toNat ∨ 128 ≤ b.toNat := by
  have hval : c.val.toNat = c.toNat := rfl
  rw [String.utf8EncodeChar] at h
  simp only [hval] at h
  split at h
  · next hsmall =>
      rw [List.mem_singleton.1 h, UInt8.toNat_ofNat']
      omega
  · refine Or.inr ?_
    split at h
    · simp only [List.mem_cons, List.not_mem_nil, or_false] at h
      rcases h with rfl | rfl <;> rw [UInt8.toNat_ofNat'] <;> omega
    · split at h
      · simp only [List.mem_cons, List.not_mem_nil, or_false] at h
        rcases h with rfl | rfl | rfl <;> rw [UInt8.toNat_ofNat'] <;> omega
      · simp only [List.mem_cons, List.not_mem_nil, or_false] at h
        rcases h with rfl | rfl | rfl | rfl <;> rw [UInt8.toNat_ofNat'] <;> omega

/-- The byte of a character of ASCII is no byte of another character. -/
theorem ne_of_mem_utf8EncodeChar {b : UInt8} {c d : Char} (h : b ∈ String.utf8EncodeChar c)
    (hd : d.toNat < 128) (hne : c ≠ d) : b ≠ UInt8.ofNat d.toNat := by
  rintro rfl
  have hbyte := toNat_of_mem_utf8EncodeChar h
  rw [UInt8.toNat_ofNat', Nat.mod_eq_of_lt (by omega)] at hbyte
  rcases hbyte with heq | hlarge
  · exact hne (Char.toNat_inj.1 heq.symm)
  · omega

/-! ### Byte order marks -/

/-- The bytes of a byte order mark begin with the bytes of no other character. -/
theorem eq_mark_of_utf8EncodeChar {c : Char} {rest tail : Bytes}
    (h : String.utf8EncodeChar c ++ rest = 0xEF :: 0xBB :: 0xBF :: tail) : c = '\ufeff' := by
  have hval : c.val.toNat = c.toNat := rfl
  have hbytes := congrArg (List.map UInt8.toNat) h
  rw [String.utf8EncodeChar] at hbytes
  simp only [hval, List.map_append, apply_ite (List.map UInt8.toNat), List.map_cons, List.map_nil,
    UInt8.toNat_ofNat', UInt8.reduceToNat] at hbytes
  apply Char.toNat_inj.1
  show c.toNat = 65279
  -- only a character of three bytes can begin with 239
  split at hbytes
  · have hfirst := (List.cons.inj hbytes).1
    omega
  · split at hbytes
    · have hfirst := (List.cons.inj hbytes).1
      omega
    · split at hbytes
      · obtain ⟨hfirst, hrest⟩ := List.cons.inj hbytes
        obtain ⟨hsecond, hrest⟩ := List.cons.inj hrest
        have hthird := (List.cons.inj hrest).1
        omega
      · have hfirst := (List.cons.inj hbytes).1
        omega

/-- Characters are stored without a byte order mark in front, unless the first of them is one. -/
theorem dropMark_encodeChars {cs : List Char} (h : cs.head? ≠ some '\ufeff') :
    dropMark (encodeChars cs) = encodeChars cs := by
  cases cs with
  | nil => rfl
  | cons c cs =>
      unfold dropMark
      split
      · next heq =>
          rw [encodeChars_cons] at heq
          exact (h (congrArg some (eq_mark_of_utf8EncodeChar heq))).elim
      · rfl

end LedgerMatch.Text
