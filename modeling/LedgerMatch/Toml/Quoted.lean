import LedgerMatch.Text.Integer

/-!
# Quoted texts in TOML

A text stands between double quotes, inside which a backslash starts an escape, or between single
quotes, inside which nothing does. Tripled quotes of either kind may enclose several lines. Each
reader starts behind the opening quotes and returns the text and what follows the closing ones.
-/

namespace LedgerMatch.Toml

/-- A character that can stand in a text or comment on one line. -/
def isPlain (c : Char) : Bool := c == '\t' || (0x20 ≤ c.toNat && c.toNat != 0x7F)

/-- The character behind a backslash. -/
def escape? : Char → Option Char
  | 'b' => some '\x08'
  | 't' => some '\t'
  | 'n' => some '\n'
  | 'f' => some '\x0c'
  | 'r' => some '\r'
  | '"' => some '"'
  | '\\' => some '\\'
  | _ => none

/-- The character that hexadecimal digits number. -/
def numbered? (digits : List Char) : Option Char := do
  let values ← digits.mapM (Text.digitIn? 16)
  let n := values.foldl (fun n d => n * 16 + d) 0
  if n.isValidChar then some (Char.ofNat n) else none

/-- Puts a character in front of what a reader found. -/
def prepend (c : Char) (found : List Char × List Char) : List Char × List Char :=
  (c :: found.1, found.2)

/-- Reads to the next double quote. -/
def basic : List Char → Option (List Char × List Char)
  | '"' :: cs => some ([], cs)
  | '\\' :: 'u' :: a :: b :: c :: d :: cs => do
      let x ← numbered? [a, b, c, d]
      (basic cs).map (prepend x)
  | '\\' :: 'U' :: a :: b :: c :: d :: e :: f :: g :: h :: cs => do
      let x ← numbered? [a, b, c, d, e, f, g, h]
      (basic cs).map (prepend x)
  | '\\' :: c :: cs => do
      let x ← escape? c
      (basic cs).map (prepend x)
  | c :: cs => if isPlain c then (basic cs).map (prepend c) else none
  | [] => none

/-- Reads to the next single quote. -/
def literal : List Char → Option (List Char × List Char)
  | '\'' :: cs => some ([], cs)
  | c :: cs => if isPlain c then (literal cs).map (prepend c) else none
  | [] => none

/-- The text without the line end at its front. -/
def skipLineEnd : List Char → List Char
  | '\n' :: cs => cs
  | '\r' :: '\n' :: cs => cs
  | cs => cs

/-- Blanks, if any, and then the end of a line. -/
def restIsBlank (cs : List Char) : Bool :=
  match cs.dropWhile fun c => c == ' ' || c == '\t' with
  | '\n' :: _ => true
  | '\r' :: '\n' :: _ => true
  | _ => false

/-- Reads to the next three double quotes; up to two more belong to the text. A backslash at the
end of a line joins it with the next text, and while lines are joined blanks are skipped. -/
def basicLines (joining : Bool) : List Char → Option (List Char × List Char)
  | '"' :: '"' :: '"' :: '"' :: '"' :: cs => some (['"', '"'], cs)
  | '"' :: '"' :: '"' :: '"' :: cs => some (['"'], cs)
  | '"' :: '"' :: '"' :: cs => some ([], cs)
  | '\\' :: 'u' :: a :: b :: c :: d :: cs => do
      let x ← numbered? [a, b, c, d]
      (basicLines false cs).map (prepend x)
  | '\\' :: 'U' :: a :: b :: c :: d :: e :: f :: g :: h :: cs => do
      let x ← numbered? [a, b, c, d, e, f, g, h]
      (basicLines false cs).map (prepend x)
  | '\\' :: c :: cs =>
      if restIsBlank (c :: cs) then basicLines true (c :: cs)
      else do
        let x ← escape? c
        (basicLines false cs).map (prepend x)
  | '\r' :: '\n' :: cs =>
      if joining then basicLines true cs else (basicLines false cs).map (prepend '\n')
  | c :: cs =>
      if joining && (c == ' ' || c == '\t' || c == '\n') then basicLines true cs
      else if isPlain c || c == '\n' then (basicLines false cs).map (prepend c)
      else none
  | [] => none

/-- Reads to the next three single quotes; up to two more belong to the text. -/
def literalLines : List Char → Option (List Char × List Char)
  | '\'' :: '\'' :: '\'' :: '\'' :: '\'' :: cs => some (['\'', '\''], cs)
  | '\'' :: '\'' :: '\'' :: '\'' :: cs => some (['\''], cs)
  | '\'' :: '\'' :: '\'' :: cs => some ([], cs)
  | '\r' :: '\n' :: cs => (literalLines cs).map (prepend '\n')
  | c :: cs => if isPlain c || c == '\n' then (literalLines cs).map (prepend c) else none
  | [] => none

/-- Reads a quoted text on one line, if a text starts with one. -/
def quotedLine? : List Char → Option (List Char × List Char)
  | '"' :: cs => basic cs
  | '\'' :: cs => literal cs
  | _ => none

/-- Reads a quoted text of either form, if a text starts with one. -/
def quoted? : List Char → Option (List Char × List Char)
  | '"' :: '"' :: '"' :: cs => basicLines false (skipLineEnd cs)
  | '\'' :: '\'' :: '\'' :: cs => literalLines (skipLineEnd cs)
  | cs => quotedLine? cs

end LedgerMatch.Toml
