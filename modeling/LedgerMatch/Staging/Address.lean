import LedgerMatch.Path
import LedgerMatch.Text.Bytes
import LedgerMatch.Text.Integer

/-!
# Addresses of staging areas

A path tells where a staging area lies. It is an address if it begins with `file:`. Then percent
signs stand for bytes, options follow a question mark, and a number sign ends it. Any other path is
a name as it stands. An area without a name, and one that lies in memory, has no file.
-/

namespace LedgerMatch

/-- What may be done with the file of a staging area. -/
inductive StagingMode where
  | readOnly
  | readWrite
  /-- a missing file is made -/
  | create
  | memory
  deriving DecidableEq, Repr

namespace StagingMode

def ofName? (s : String) : Option StagingMode :=
  [("ro", readOnly), ("rw", readWrite), ("rwc", create), ("memory", memory)].lookup s

/-- Modes by how much they allow. -/
def rank : StagingMode → Nat
  | readOnly => 0
  | readWrite => 1
  | create => 2
  | memory => 3

/-- The mode that an option asks for. It can only take something away; memory is always granted. -/
def narrowedTo? (current asked : StagingMode) : Option StagingMode :=
  if asked = memory ∨ asked.rank ≤ current.rank then some asked else none

end StagingMode

/-- How a kind of place keeps staging files. -/
inductive StagingPlace where
  /-- a file with a log that several programs share -/
  | sharedDisk
  /-- a file with a log that one program has for itself -/
  | ownDisk
  /-- a file without a log -/
  | plainDisk
  | memory
  deriving DecidableEq, Repr

/-- The kind of place with a name. -/
def StagingPlace.ofName? (s : String) : Option StagingPlace :=
  [("unix", sharedDisk), ("unix-excl", ownDisk), ("unix-none", plainDisk),
    ("unix-dotfile", plainDisk), ("memdb", memory)].lookup s

structure StagingAddress where
  name : String
  mode : StagingMode := .create
  place : StagingPlace := .sharedDisk
  /-- the file is taken to be one that nobody changes -/
  isImmutable : Bool := false
  /-- the file is used without locks, and so without a log that is shared -/
  isUnlocked : Bool := false
  /-- a file from which a new one takes its rights -/
  pattern? : Option String := none
  deriving DecidableEq

namespace StagingAddress

/-! ### Parts of addresses -/

/-- The byte that two hexadecimal digits stand for. -/
def byteOf? (a b : Char) : Option UInt8 := do
  some (16 * (← Text.digitIn? 16 a) + (← Text.digitIn? 16 b)).toUInt8

/-- The bytes of a text in which a percent sign and two hexadecimal digits stand for a byte. -/
def percentDecoded : List Char → Bytes
  | [] => []
  | '%' :: a :: b :: rest =>
      match byteOf? a b with
      | some byte => byte :: percentDecoded rest
      | none => 37 :: percentDecoded (a :: b :: rest)
  | c :: rest => Text.encode c.toString ++ percentDecoded rest

/-- A part of an address. A zero byte ends it. -/
def part (cs : List Char) : String :=
  String.ofList (Text.decodeMarked ((percentDecoded cs).takeWhile (· != 0)))

/-- What follows a host, which can only be left out or be this machine. -/
def behindHost? : List Char → Option (List Char)
  | '/' :: '/' :: rest =>
      let host := rest.takeWhile (· != '/')
      if host = [] ∨ host = "localhost".toList then some (rest.dropWhile (· != '/')) else none
  | cs => some cs

/-- The names and values of options. Options without a name are passed over. -/
def options (cs : List Char) : List (String × String) :=
  ((Text.cut (· == '&') cs).map fun option =>
    (part (option.takeWhile (· != '=')), part ((option.dropWhile (· != '=')).drop 1))).filter
      (·.1 != "")

/-- The number at the front of a text, zero if it is too great. -/
def leadingNumber (cs : List Char) : Nat :=
  let n := (cs.takeWhile Char.isDigit).foldl (fun n c => 10 * n + (c.toNat - 48)) 0
  if n < 2147483648 then n else 0

/-- Whether the value of an option switches something on. -/
def isOn (value : String) : Bool :=
  if (value.toList.head?.any Char.isDigit) then leadingNumber value.toList % 256 != 0
  else ["on", "yes", "true"].contains (value.map Char.toLower)

/-! ### Reading addresses -/

/-- Follows an option. The first of several that switch something decides, the last that names a
place. -/
def withOption? (a : StagingAddress) (o : String × String) : Option StagingAddress :=
  if o.1 = "mode" then do
    let mode ← a.mode.narrowedTo? (← StagingMode.ofName? o.2)
    some { a with mode }
  else if o.1 = "cache" then if ["shared", "private"].contains o.2 then some a else none
  else some a

/-- Reads what follows the front of an address. -/
def ofAddress? (cs : List Char) : Option StagingAddress := do
  let cs := (← behindHost? cs).takeWhile (· != '#')
  let options := options ((cs.dropWhile (· != '?')).drop 1)
  let place ← StagingPlace.ofName? ((options.reverse.lookup "vfs").getD "unix")
  options.foldlM withOption? {
    name := part (cs.takeWhile (· != '?'))
    place
    isImmutable := (options.lookup "immutable").any isOn
    isUnlocked := (options.lookup "nolock").any isOn
    pattern? := options.lookup "modeof" }

/-- Reads the path of a staging area. No name holds a zero character. -/
def ofPath? (p : Path) : Option StagingAddress :=
  let cs := p.text.toList
  if cs.contains '\x00' then none
  else if "file:".toList.isPrefixOf cs then ofAddress? (cs.drop 5)
  else some { name := p.text }

/-! ### What addresses ask for -/

/-- An area that lies in memory by its name or mode, or that has no name. -/
def isUnnamed (a : StagingAddress) : Bool :=
  a.name == "" || a.name == ":memory:" || a.mode == .memory

def isFileless (a : StagingAddress) : Bool := a.isUnnamed || a.place == .memory

/-- Whether nothing can be staged in the area. -/
def isReadOnly (a : StagingAddress) : Bool :=
  a.mode == .readOnly || (!a.isUnnamed && a.isImmutable)

/-- Whether changes are kept in a log beside the file. -/
def keepsLog (a : StagingAddress) : Bool :=
  (a.place == .sharedDisk || a.place == .ownDisk) && !a.isUnlocked

/-- Whether a part of the log is shared. -/
def sharesLog (a : StagingAddress) : Bool := a.keepsLog && a.place == .sharedDisk

end StagingAddress

end LedgerMatch
