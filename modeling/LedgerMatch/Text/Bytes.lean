/-!
# Texts as bytes

Files hold bytes. A text is stored in UTF-8, and bytes that are not UTF-8 have no text.
-/

namespace LedgerMatch

/-- The content of a file. -/
abbrev Bytes := List UInt8

namespace Text

/-- The bytes of a text in UTF-8. -/
def encode (s : String) : Bytes := s.toUTF8.data.toList

/-- The text of bytes in UTF-8. -/
def decode? (bytes : Bytes) : Option String := String.fromUTF8? ⟨bytes.toArray⟩

/-- The character that the front of a content encodes, and the number of its bytes. -/
def firstChar? (bytes : Bytes) : Option (Char × Nat) :=
  [1, 2, 3, 4].findSome? fun n =>
    match (decode? (bytes.take n)).map String.toList with
    | some [c] => some (c, n)
    | _ => none

/-- Whether the second byte of a character of three or four bytes can stand behind the first. -/
def joins (first second : UInt8) : Bool :=
  if first = 0xE0 then 0xA0 ≤ second ∧ second ≤ 0xBF
  else if first = 0xED then 0x80 ≤ second ∧ second ≤ 0x9F
  else if first = 0xF0 then 0x90 ≤ second ∧ second ≤ 0xBF
  else if first = 0xF4 then 0x80 ≤ second ∧ second ≤ 0x8F
  else 0xE1 ≤ first ∧ first ≤ 0xF3 ∧ 0x80 ≤ second ∧ second ≤ 0xBF

/-- The number of bytes at the front of a broken content that could begin a character, at least
one. -/
def brokenLength : Bytes → Nat
  | a :: b :: c :: _ =>
      if joins a b then if 0xF0 ≤ a ∧ 0x80 ≤ c ∧ c ≤ 0xBF then 3 else 2 else 1
  | [a, b] => if joins a b then 2 else 1
  | _ => 1

/-- The characters of a content, with a mark in place of each piece that belongs to none. -/
def decodeMarked : Bytes → List Char
  | [] => []
  | b :: rest =>
      match firstChar? (b :: rest) with
      | some (c, n) => c :: decodeMarked (rest.drop (n - 1))
      | none => '\ufffd' :: decodeMarked (rest.drop (brokenLength (b :: rest) - 1))
termination_by bytes => bytes.length
decreasing_by all_goals simp +arith

/-- The content behind a byte order mark. -/
def dropMark : Bytes → Bytes
  | 0xEF :: 0xBB :: 0xBF :: rest => rest
  | content => content

theorem decode?_encode (s : String) : decode? (encode s) = some s := by
  have h : (⟨(encode s).toArray⟩ : ByteArray) = s.toUTF8 := by simp [encode]
  simp only [decode?, h, String.fromUTF8?, String.toUTF8_eq_toByteArray, dif_pos s.isValidUTF8]
  rfl

end Text

end LedgerMatch
