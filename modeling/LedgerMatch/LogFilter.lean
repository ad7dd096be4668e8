import LedgerMatch.Text.Alphanumeric
import LedgerMatch.Text.Blank
import LedgerMatch.Text.Bytes
import LedgerMatch.Text.Integer
import LedgerMatch.Text.Letter
import LedgerMatch.Text.Split

/-!
# Log filters

A log filter is a row of directives with commas between them. A directive is a level, or a target
with a level behind an equals sign; between target and level a span can stand in brackets, and in
the span a field in braces. A filter as a whole is sound if all its directives are. Otherwise each
unsound one is left out with a notice.
-/

namespace LedgerMatch.LogFilter

/-- Why a directive is left out. -/
inductive DirectiveFault where
  | malformed
  | level
  deriving DecidableEq, Repr

def DirectiveFault.message : DirectiveFault → String
  | malformed => "invalid filter directive"
  | level =>
      "error parsing level filter: expected one of \"off\", \"error\", \"warn\", \"info\", "
        ++ "\"debug\", \"trace\", or a number 0-5"

/-- Levels are named in any letter case, or numbered. The empty text is a level too. -/
def isLevel (s : String) : Bool :=
  let number := if s.toList.head? = some '+' then s.toList.drop 1 else s.toList
  s == "" || (["off", "error", "warn", "info", "debug", "trace"].any (Text.sameLetters s ·))
    || (match Text.readSigned 10 number with
      | .ok n => number.all Char.isDigit && n ≤ 5
      | .error _ => false)

/-- Checks the level of a directive that starts behind so many bytes. They are counted from the front
of the directive without the blanks around it, but taken off with the blanks. -/
def checkLevel (directive : List Char) (bytes : Nat) : Except DirectiveFault Unit :=
  let level := Text.decodeMarked ((Text.encode (String.ofList directive)).drop bytes)
  if isLevel (String.ofList level) then .ok () else .error .level

/-- The rest of a directive behind a span, of which the opening bracket was taken. -/
def behindSpan? (cs : List Char) : Option (List Char) :=
  match cs.dropWhile fun c => c != ']' && c != '{' with
  | ']' :: rest => some rest
  | '{' :: rest =>
      match rest.takeWhile (· != '}'), rest.dropWhile (· != '}') with
      | _ :: _, '}' :: ']' :: rest => some rest
      | _, _ => none
  | _ => none

/-- Whether a target or level can begin with a character. -/
def isFirst (c : Char) : Bool := ['-', ':', '_'].contains c || Text.isAlphanumeric c

/-- Checks a directive. What stands alone is a level or a target, so it cannot be wrong. -/
def checkDirective (directive : List Char) : Except DirectiveFault Unit :=
  let cs := Text.trimChars directive
  let atLevel (rest : List Char) : Except DirectiveFault Unit :=
    checkLevel directive ((String.ofList cs).utf8ByteSize - (String.ofList rest).utf8ByteSize)
  let atSpan (rest : List Char) : Except DirectiveFault Unit :=
    match behindSpan? rest with
    | some [] => .ok ()
    | some ('=' :: rest) => atLevel rest
    | _ => .error .malformed
  match cs with
  | [] => .error .malformed
  | '[' :: rest => atSpan rest
  | c :: _ =>
      if !isFirst c then .error .malformed
      else match cs.dropWhile fun c => c != '=' && c != '[' with
        | '=' :: rest => atLevel rest
        | '[' :: rest => atSpan rest
        | _ => .ok ()

def directives (s : String) : List (List Char) :=
  (Text.cut (· == ',') s.toList).filter (· ≠ [])

def isSound (s : String) : Bool := (directives s).all fun d => (checkDirective d).isOk

/-- A notice for each directive of a filter that is left out. -/
def notices (s : String) : List String :=
  (directives s).filterMap fun d =>
    match checkDirective d with
    | .ok _ => none
    | .error fault => some ("ignoring `" ++ String.ofList d ++ "`: " ++ fault.message)

end LedgerMatch.LogFilter
