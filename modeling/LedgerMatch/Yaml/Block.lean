import LedgerMatch.Yaml.Flow

/-!
# Lines in YAML

The lines of a document form lists and tables by their indentation. What stands behind the dash of an
item or behind the colon of a key is taken as a line of its own that begins in that column.
-/

namespace LedgerMatch.Yaml

open Text (Reader)
open Text.Reader

/-- A line: the column of its first character that is no space, and what follows from there. -/
structure Line where
  indent : Nat
  chars : List Char
  deriving DecidableEq, Repr

namespace Line

def ofChars (cs : List Char) : Line :=
  ⟨(cs.takeWhile (· == ' ')).length, cs.dropWhile (· == ' ')⟩

/-- A line that holds nothing, or a comment. -/
def isBlank (l : Line) : Bool :=
  match l.chars.dropWhile isPadding with
  | [] => true
  | c :: _ => c == '#'

/-- The line that is left behind some characters and the blanks after them. -/
def behind (l : Line) (width : Nat) : Line :=
  let rest := l.chars.drop width
  let blanks := (rest.takeWhile isPadding).length
  ⟨l.indent + width + blanks, rest.drop blanks⟩

/-- Whether an item of a list begins a line. -/
def startsItem (l : Line) : Bool :=
  match l.chars with
  | '-' :: rest => startsWithGap rest
  | _ => false

end Line

/-- The lines of a text, which end with a line feed, a carriage return, or both. -/
def linesOf (cs : List Char) : List Line :=
  let rec go (line : List Char) : List Char → List (List Char)
    | [] => [line.reverse]
    | '\r' :: '\n' :: cs => line.reverse :: go [] cs
    | '\r' :: cs => line.reverse :: go [] cs
    | '\n' :: cs => line.reverse :: go [] cs
    | c :: cs => go (c :: line) cs
  (go [] cs).map Line.ofChars

def Line.text (l : Line) : List Char := List.replicate l.indent ' ' ++ l.chars

/-- What is left of lines when some characters of the first were taken. -/
def textOf (cs : List Char) (lines : List Line) : List Char :=
  cs ++ lines.flatMap fun l => '\n' :: l.text

/-- The lines behind the one that a text begins in, of which only a comment may be left. -/
def settle? (cs : List Char) : Option (List Line) :=
  let left := cs.takeWhile (· != '\n')
  let isComment :=
    match left.dropWhile isPadding with
    | [] => true
    | c :: _ => c == '#' && left.head?.all isPadding
  if isComment then
    some (match cs.dropWhile (· != '\n') with
      | [] => []
      | _ :: rest => linesOf rest)
  else none

/-- Reads a value at the front of lines with a reader of characters. -/
def readInline (reader : Reader Node) (l : Line) (lines : List Line) : Option (Node × List Line) :=
  (reader (textOf l.chars lines)).bind fun r => (settle? r.2).map fun lines => (r.1, lines)

/-! ### Scalars over lines -/

/-- The lines with which a plain scalar goes on: those that lie deeper, up to a comment. -/
def moreLines (parent : Int) : List Line → List Line × List Line
  | [] => ([], [])
  | l :: lines =>
      if l.chars.all isPadding then
        let (taken, left) := moreLines parent lines
        if taken = [] then ([], l :: lines) else (l :: taken, left)
      else if l.indent ≤ parent ∨ l.isBlank then ([], l :: lines)
      else
        let (taken, left) := moreLines parent lines
        (l :: taken, left)

/-- A plain scalar with the lines that go on with it. An empty line between two of them counts as the
end of a line. -/
def joinPlain (text : List Char) (empty : Nat) : List Line → Option (List Char)
  | [] => some text
  | l :: lines =>
      if l.chars.all isPadding then joinPlain text (empty + 1) lines
      else
        let (part, left) := plainPart false l.chars
        let gap := if empty = 0 then [' '] else List.replicate empty '\n'
        let text := text ++ gap ++ dropPadding part
        if left = [] then joinPlain text 0 lines
        else if (left.dropWhile isPadding).head? = some '#' ∧ lines.all Line.isBlank then some text
        else none

/-- Reads a plain scalar. -/
def plain? (parent : Int) (l : Line) (lines : List Line) : Option (List Char × List Line) :=
  if !startsPlain l.chars then none
  else
    let (part, left) := plainPart false l.chars
    match left with
    | [] =>
        let (taken, lines) := moreLines parent lines
        (joinPlain (dropPadding part) 0 taken).map fun text => (text, lines)
    | c :: _ => if isPadding c then some (dropPadding part, lines) else none

/-- How the ends of the last lines of a block of text are kept. -/
inductive Chomping where
  | strip
  | clip
  | keep
  deriving DecidableEq, Repr

/-- The signs behind the bar or arrow of a block of text: its indentation, if given, and what is kept
of its end. -/
def blockSigns? (cs : List Char) : Option (Option Nat × Chomping) :=
  let signs := cs.takeWhile fun c => !isPadding c
  let left := (cs.dropWhile fun c => !isPadding c).dropWhile isPadding
  let chomping (c : Char) : Option Chomping :=
    if c = '-' then some .strip else if c = '+' then some .keep else none
  let depth (c : Char) : Option Nat := (Text.digitValue? c).filter (0 < ·)
  if left.head?.any (· != '#') then none
  else match signs with
    | [] => some (none, .clip)
    | [c] => ((chomping c).map fun k => (none, k)).or ((depth c).map fun n => (some n, .clip))
    | [c, d] =>
        match chomping c, depth d with
        | some k, some n => some (some n, k)
        | _, _ =>
            match depth c, chomping d with
            | some n, some k => some (some n, k)
            | _, _ => none
    | _ => none

/-- The lines of a block of text, without their indentation. -/
def blockLines (indent : Nat) : List Line → List (List Char) × List Line
  | [] => ([], [])
  | l :: lines =>
      if l.chars = [] ∨ indent ≤ l.indent then
        let (taken, left) := blockLines indent lines
        (l.text.drop indent :: taken, left)
      else ([], l :: lines)

/-- Joins lines onto an earlier one, behind which so many lines were empty. The end of a line counts as
a space where neither side is indented and no empty line lies between them. -/
def foldOnto (isFlush : Bool) (empty : Nat) : List (List Char) → List Char
  | [] => []
  | line :: lines =>
      if line = [] then foldOnto isFlush (empty + 1) lines
      else
        let nextFlush := !startsWithGap line
        let gap :=
          if !isFlush || !nextFlush then List.replicate (empty + 1) '\n'
          else if empty = 0 then [' ']
          else List.replicate empty '\n'
        gap ++ line ++ foldOnto nextFlush 0 lines

/-- Joins the lines of a folded block of text. -/
def foldLines (lines : List (List Char)) : List Char :=
  let empty := (lines.takeWhile (· = [])).length
  match lines.drop empty with
  | [] => []
  | line :: rest =>
      List.replicate empty '\n' ++ line ++ foldOnto (!startsWithGap line) 0 rest

/-- Reads a block of text behind its bar or arrow. -/
def blockText? (isFolded : Bool) (parent : Int) (signs : List Char) (lines : List Line) :
    Option (Node × List Line) :=
  (blockSigns? signs).bind fun (depth, chomping) =>
    let own : Option Nat := (lines.find? fun l => l.chars ≠ []).map (·.indent)
    let indent : Nat :=
      match depth, own with
      | some n, _ => parent.toNat + n
      | none, some n => if parent < n then n else parent.toNat + 1
      | none, none => parent.toNat + 1
    let (taken, lines) := blockLines indent lines
    let ending := (taken.reverse.takeWhile (· = [])).length
    let kept := taken.take (taken.length - ending)
    let body := if isFolded then foldLines kept else ['\n'].intercalate kept
    let behind :=
      match chomping with
      | .strip => []
      | .clip => if kept = [] then [] else ['\n']
      | .keep => List.replicate (if kept = [] then ending else ending + 1) '\n'
    some (.scalar (.text (String.ofList (body ++ behind))), lines)

/-! ### Lists and tables -/

/-- The key at the front of a line, and the line behind its colon. -/
def key? (l : Line) : Option (String × Line) :=
  let behindColon (name : String) (left : List Char) : Option (String × Line) :=
    match left.dropWhile isPadding with
    | ':' :: rest =>
        if startsWithGap rest then
          some (name, l.behind (l.chars.length - rest.length))
        else none
    | _ => none
  match l.chars with
  | c :: _ =>
      if c = '"' ∨ c = '\'' then (quoted l.chars).bind fun r => behindColon r.1 r.2
      else if startsPlain l.chars then
        let (part, left) := plainPart false l.chars
        ((plainValue? (dropPadding part)).bind keyName?).bind fun name => behindColon name left
      else none
  | [] => none

/-- The name that is given to what follows on a line, if there is one, and the line behind it. -/
def givenName (l : Line) : Option String × Line :=
  match l.chars with
  | '&' :: cs =>
      match nodeName cs with
      | some (name, rest) =>
          if startsWithGap rest then (some name, l.behind (1 + name.length)) else (none, l)
      | none => (none, l)
  | _ => (none, l)

/-- Reads a value that is no list or table over lines of its own. -/
def inline? (parent : Int) (l : Line) (lines : List Line) : Option (Node × List Line) :=
  let quotedText : Reader Node := do pure (.scalar (.text (← quoted)))
  let flow : Reader Node := do flowValue (← rest).length
  match l.chars with
  | '|' :: signs => blockText? false parent signs lines
  | '>' :: signs => blockText? true parent signs lines
  | '"' :: _ => readInline quotedText l lines
  | '\'' :: _ => readInline quotedText l lines
  | '[' :: _ => readInline flow l lines
  | '\x7b' :: _ => readInline flow l lines
  | '*' :: _ => readInline flow l lines
  | '!' :: _ =>
      let tag := l.chars.takeWhile fun c => !isPadding c
      let l := l.behind tag.length
      match l.chars with
      | '"' :: _ => readInline quotedText l lines
      | '\'' :: _ => readInline quotedText l lines
      | _ =>
          (plain? parent l lines).bind fun r =>
            (taggedValue? tag r.1).map fun v => (.scalar v, r.2)
  | _ => (plain? parent l lines).bind fun r => (plainValue? r.1).map fun v => (.scalar v, r.2)

mutual

/-- Reads a value on lines that lie deeper than a parent, null if there are none. The first number
bounds the nesting and the count of items. -/
def node : Nat → Int → List Line → Option (Node × List Line)
  | 0, _, _ => none
  | n + 1, parent, lines =>
      match lines.dropWhile Line.isBlank with
      | [] => some (.scalar .null, [])
      | l :: rest =>
          if l.indent ≤ parent then some (.scalar .null, l :: rest)
          else match givenName l with
            | (some name, inner) =>
                let lines := if inner.isBlank then rest else inner :: rest
                (node n parent lines).map fun r => (.named name r.1, r.2)
            | (none, _) =>
                if l.startsItem then (items n l.indent (l :: rest)).map fun r => (.list r.1, r.2)
                else if (key? l).isSome then
                  (fields n l.indent (l :: rest)).map fun r => (.table r.1, r.2)
                else inline? parent l rest

/-- Reads the items of a list whose dashes stand in a column. -/
def items : Nat → Nat → List Line → Option (List Node × List Line)
  | 0, _, _ => none
  | n + 1, column, lines =>
      match lines.dropWhile Line.isBlank with
      | [] => some ([], [])
      | l :: rest =>
          if l.indent < column ∨ (l.indent = column ∧ ¬ l.startsItem) then some ([], l :: rest)
          else if column < l.indent then none
          else
            let inner := l.behind 1
            let lines := if inner.isBlank then rest else inner :: rest
            (node n column lines).bind fun (v, lines) =>
              (items n column lines).map fun (vs, lines) => (v :: vs, lines)

/-- Reads the fields of a table whose keys stand in a column. A list may stand in the same column. -/
def fields : Nat → Nat → List Line → Option (List (String × Node) × List Line)
  | 0, _, _ => none
  | n + 1, column, lines =>
      match lines.dropWhile Line.isBlank with
      | [] => some ([], [])
      | l :: rest =>
          if l.indent < column then some ([], l :: rest)
          else if column < l.indent then none
          else
            (key? l).bind fun (key, inner) =>
              let (name?, inner) := givenName inner
              let value :=
                if !inner.isBlank then inline? column inner rest
                else match rest.dropWhile Line.isBlank with
                  | next :: _ =>
                      if next.indent = column ∧ next.startsItem then
                        (items n column rest).map fun r => (.list r.1, r.2)
                      else node n column rest
                  | [] => some (.scalar .null, [])
              value.bind fun (v, lines) =>
                (fields n column lines).map fun (vs, lines) =>
                  ((key, v.withName? name?) :: vs, lines)

end

/-! ### Documents -/

/-- A line of three equal characters in the first column, with a gap behind them. -/
def Line.isMark (l : Line) (c : Char) : Bool :=
  l.indent == 0 && [c, c, c].isPrefixOf l.chars && startsWithGap (l.chars.drop 3)

def Line.isAnyMark (l : Line) : Bool := l.isMark '-' || l.isMark '.'

/-- The lines of the only document of a text, if there is one, and whether its start is marked. More
than one document is refused. -/
def onlyDocument? (lines : List Line) : Option (Option (List Line)) :=
  let isAhead (l : Line) := l.isBlank || (l.indent == 0 && l.chars.head? == some '%')
  let ends (lines : List Line) (found : List Line) : Option (Option (List Line)) :=
    if (lines.dropWhile fun l => l.isBlank || l.isMark '.').isEmpty then some (some found) else none
  match lines.dropWhile isAhead with
  | [] => some none
  | l :: rest =>
      if l.isMark '-' then
        let inner := l.behind 3
        let body := rest.takeWhile fun l => !l.isAnyMark
        ends (rest.dropWhile fun l => !l.isAnyMark) (if inner.isBlank then body else inner :: body)
      else
        ends ((l :: rest).dropWhile fun l => !l.isAnyMark)
          ((l :: rest).takeWhile fun l => !l.isAnyMark)

/-- Reads a text that holds one document or none. -/
def document? (s : String) : Option Value :=
  (onlyDocument? (linesOf s.toList)).bind fun
    | none => some (.table [])
    | some lines =>
        (node (s.toList.length + 2) (-1) lines).bind fun (v, left) =>
          if left.all Line.isBlank then v.value? else none

end LedgerMatch.Yaml
