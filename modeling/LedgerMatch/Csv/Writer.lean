import LedgerMatch.Text.Bytes

/-!
# Writing CSV

A field is quoted if it holds a comma, a quote or the end of a line, and a quote inside is written
twice. Each record ends with a line feed.
-/

namespace LedgerMatch.Csv

/-- A character that a field can hold only inside quotes. -/
def needsQuotes (c : Char) : Bool := c == ',' || c == '"' || c == '\r' || c == '\n'

/-- Writes each quote twice. -/
def doubleQuotes (cs : List Char) : List Char :=
  cs.flatMap fun c => if c = '"' then ['"', '"'] else [c]

def fieldChars (cs : List Char) : List Char :=
  if cs.any needsQuotes then '"' :: doubleQuotes cs ++ ['"'] else cs

/-- The fields of a record with commas between them, and a line feed. -/
def recordChars : List String → List Char
  | [] => ['\n']
  | [f] => fieldChars f.toList ++ ['\n']
  | f :: g :: rest => fieldChars f.toList ++ ',' :: recordChars (g :: rest)

/-- A header and the records below it. -/
def document (header : List String) (rows : List (List String)) : String :=
  String.ofList ((header :: rows).flatMap recordChars)

end LedgerMatch.Csv
