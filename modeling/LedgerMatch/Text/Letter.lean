/-!
# Letter case

Codes of banks and directions are compared and written without regard to the case of the letters
A to Z. All other characters stand for themselves.
-/

namespace LedgerMatch.Text

/-- Writes the letters a to z large. -/
def upper (s : String) : String := String.ofList (s.toList.map Char.toUpper)

/-- Writes the letters A to Z small. -/
def lower (s : String) : String := String.ofList (s.toList.map Char.toLower)

/-- Two texts that differ at most in the case of the letters A to Z. -/
def sameLetters (s t : String) : Bool := lower s == lower t

end LedgerMatch.Text
