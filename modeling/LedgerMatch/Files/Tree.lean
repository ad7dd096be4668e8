import LedgerMatch.Files.Basic

/-!
# Directory trees

Files inside directories. A location is the list of names from the root of the tree down to a file
or directory. Unlike flat files, a directory and a file cannot share a location, and a file needs
its directories. A path is followed step by step, and every step has to start at a directory: also
one that leads back up, one that stays where it is, and the empty one behind a slash at the end.
-/

namespace LedgerMatch

/-- The names from the root of a tree down to a file or directory. -/
abbrev Location := List String

inductive TreeNode where
  | file (content : Bytes)
  | directory
  deriving DecidableEq

/-- What lies where, the latest first, and the directory that relative paths start from. -/
structure Tree where
  nodes : List (Location × TreeNode)
  home : Location := []
  deriving DecidableEq

/-- A path as it is followed: where it starts, its steps, and whether a slash ends it. -/
structure Route where
  start : Location
  steps : List PathComponent
  endsInSlash : Bool
  deriving DecidableEq

/-- The end of the lengths of paths, in bytes. -/
def pathLimit : Nat := 4096

/-- The largest length of a name, in bytes. -/
def nameLimit : Nat := 255

namespace Tree

def empty : Tree := { nodes := [] }

/-- What lies at a location; the root is a directory. -/
def node? (t : Tree) (loc : Location) : Option TreeNode :=
  if loc = [] then some .directory else (t.nodes.find? (·.1 == loc)).map (·.2)

/-- Replaces what lies at a location. -/
def put (t : Tree) (loc : Location) (n : TreeNode) : Tree :=
  { t with nodes := (loc, n) :: t.nodes.filter (·.1 != loc) }

/-- A tree with nothing but the directories down to the one that relative paths start from. -/
def ofHome (home : Location) : Tree :=
  (List.range home.length).foldl (fun t n => t.put (home.take (n + 1)) .directory)
    { nodes := [], home }

/-! ### Following paths -/

/-- The step that a part of a path stands for. -/
def stepOf (part : List Char) : PathComponent :=
  if part = ['.'] then .current
  else if part = ['.', '.'] then .parent
  else .name (String.ofList part)

/-- The route of a path. -/
def route (t : Tree) (p : Path) : Except TreeFault Route :=
  if p.text.toList.contains '\x00' then .error .zeroCharacter
  else if pathLimit ≤ p.text.utf8ByteSize then .error .nameTooLong
  else if p.text = "" then .error .notFound
  else
    let parts := Text.cut (· == '/') p.text.toList
    .ok ⟨if p.isAbsolute then [] else t.home, (parts.filter (· ≠ [])).map stepOf,
      parts.getLast? == some []⟩

/-- Takes a step from a location, where a directory has to lie. -/
def step (t : Tree) (loc : Location) (c : PathComponent) : Except TreeFault Location :=
  match t.node? loc with
  | none => .error .notFound
  | some (.file _) => .error .notADirectory
  | some .directory =>
      match c with
      | .root => .ok []
      | .current => .ok loc
      | .parent => .ok loc.dropLast
      | .name s => if nameLimit < s.utf8ByteSize then .error .nameTooLong else .ok (loc ++ [s])

def follow (t : Tree) (loc : Location) (steps : List PathComponent) : Except TreeFault Location :=
  steps.foldlM t.step loc

/-- What lies under a path. -/
def lookup (t : Tree) (p : Path) : Except TreeFault (Location × TreeNode) := do
  let r ← t.route p
  let loc ← t.follow r.start r.steps
  match t.node? loc with
  | none => .error .notFound
  | some (.file content) =>
      if r.endsInSlash then .error .notADirectory else .ok (loc, .file content)
  | some .directory => .ok (loc, .directory)

/-! ### Listing and reading -/

/-- The path of a location below a directory. -/
def pathOf (dir : Path) (names : List String) : Path := names.foldl (fun p s => p.join ⟨s⟩) dir

/-- Inserts a path into a list in the order of paths. -/
def insertPath (p : Path) : List Path → List Path
  | [] => [p]
  | q :: rest => if p.lt q then p :: q :: rest else q :: insertPath p rest

/-- The files below a location, each as a path below a directory. -/
def filesBelow (t : Tree) (dir : Path) (loc : Location) : List Path :=
  let found := t.nodes.filterMap fun
    | (l, .file _) => if loc.isPrefixOf l then some (pathOf dir (l.drop loc.length)) else none
    | (_, .directory) => none
  found.foldr insertPath []

def walk (t : Tree) (root : Path) : Except FileFault (List Path) :=
  match t.lookup root with
  | .error fault => .error (.tree fault)
  | .ok (_, .file _) => .ok [root]
  | .ok (loc, .directory) => .ok (t.filesBelow root loc)

def openFile (t : Tree) (p : Path) : Except FileFault Source :=
  match t.lookup p with
  | .error fault => .error (.tree fault)
  | .ok (_, .file content) => .ok (.whole content)
  | .ok (_, .directory) => .ok (.broken [] (.tree .isADirectory))

/-! ### Writing -/

/-- The text of components with single slashes between them. -/
def plainText (components : List PathComponent) : String :=
  components.foldl (fun (p : Path) c =>
    p.join ⟨match c with
      | .root => "/"
      | .current => "."
      | .parent => ".."
      | .name s => s⟩) ⟨""⟩ |>.text

/-- Makes a directory that is the last of some components. All before it have to be there. -/
def makeDirectory (t : Tree) (components : List PathComponent) : Except TreeFault Tree := do
  let r ← t.route ⟨plainText components⟩
  let loc ← t.follow r.start r.steps.dropLast
  let target ← t.step loc (r.steps.getLast?.getD .current)
  match r.steps.getLast? with
  | some (.name _) =>
      match t.node? target with
      | some _ => .error .exists
      | none => .ok (t.put target .directory)
  | _ => .error .exists

/-- Whether components lead to a directory. -/
def hasDirectory (t : Tree) (components : List PathComponent) : Bool :=
  match t.lookup ⟨plainText components⟩ with
  | .ok (_, .directory) => true
  | _ => false

/-- Makes a directory together with the directories before it that are missing. The components
stand in reverse, and what was made stays if a later one fails. -/
def makeDirectories (t : Tree) : List PathComponent → Except TreeFault Unit × Tree
  | [] => (.ok (), t)
  | c :: before =>
      let components := (c :: before).reverse
      let settle (t : Tree) : Except TreeFault Tree → Except TreeFault Unit × Tree
        | .ok t => (.ok (), t)
        | .error fault => (if t.hasDirectory components then .ok () else .error fault, t)
      match t.makeDirectory components with
      | .error .notFound =>
          match t.makeDirectories before with
          | (.error fault, t) => (.error fault, t)
          | (.ok (), t) => settle t (t.makeDirectory components)
      | result => settle t result

/-- The location of a file that can be written under a path. -/
def writable (t : Tree) (p : Path) : Except TreeFault Location := do
  let r ← t.route p
  let loc ← t.follow r.start r.steps.dropLast
  let _ ← t.step loc .current
  match r.steps.getLast?, r.endsInSlash with
  | some (.name s), false =>
      let target ← t.step loc (.name s)
      if t.node? target = some .directory then .error .isADirectory else .ok target
  | _, _ => .error .isADirectory

/-- Writes a file, and before that makes the directories in which it lies. -/
def write (t : Tree) (p : Path) (content : Bytes) : Except FileFault Unit × Tree :=
  match t.makeDirectories p.components.dropLast.reverse with
  | (.error fault, t) => (.error (.tree fault), t)
  | (.ok (), t) =>
      match t.writable p with
      | .error fault => (.error (.tree fault), t)
      | .ok loc => (.ok (), t.put loc (.file content))

/-! ### Removing -/

/-- Removes the empty directory under a path. It has to be named: a directory cannot be removed by
a step that stays where it is or leads back up. -/
def removeDirectory (t : Tree) (p : Path) : Except TreeFault Tree := do
  let r ← t.route p
  let loc ← t.follow r.start r.steps.dropLast
  let target ← t.step loc (r.steps.getLast?.getD .current)
  match r.steps.getLast? with
  | some (.name _) => .ok { t with nodes := t.nodes.filter (·.1 != target) }
  | some .parent => .error .notEmpty
  | _ => .error .invalidArgument

/-- Removes a directory and everything in it. What is not there need not be removed. -/
def remove (t : Tree) (p : Path) : Except FileFault Unit × Tree :=
  match t.lookup p with
  | .error .notFound => (.ok (), t)
  | .error fault => (.error (.tree fault), t)
  | .ok (_, .file _) => (.error (.tree .notADirectory), t)
  | .ok (loc, .directory) =>
      let emptied := { t with nodes := t.nodes.filter fun n => n.1 == loc || !loc.isPrefixOf n.1 }
      match emptied.removeDirectory p with
      | .ok t => (.ok (), t)
      | .error .notFound => (.ok (), emptied)
      | .error fault => (.error (.tree fault), emptied)

/-! ### Whole trees -/

/-- Stores contents from left to right, as far as they can be stored. -/
def writeAll (t : Tree) (files : List (Path × Bytes)) : Tree :=
  files.foldl (fun t f => (t.write f.1 f.2).2) t

/-- The content of the file under a path. -/
def content? (t : Tree) (p : Path) : Option Bytes :=
  match t.lookup p with
  | .ok (_, .file content) => some content
  | _ => none

/-- The location that a path names, whether its directories exist or not. -/
def nameOf (t : Tree) (p : Path) : Location :=
  p.components.foldl (fun loc c =>
    match c with
    | .root => []
    | .current => loc
    | .parent => loc.dropLast
    | .name s => loc ++ [s]) t.home

/-- What an earlier tree does not have in its place, directories before what lies in them. -/
def addedSince (t before : Tree) : List (Location × TreeNode) :=
  (t.nodes.filter fun n => before.node? n.1 != some n.2).reverse

/-- Where an earlier tree has something that is gone, the deepest locations first. -/
def removedSince (t before : Tree) : List Location :=
  ((before.nodes.map (·.1)).filter fun loc => (t.node? loc).isNone).mergeSort fun a b =>
    b.length ≤ a.length

end Tree

instance : FileSystem Tree where
  walk := Tree.walk
  openFile := Tree.openFile
  write := Tree.write
  remove := Tree.remove

end LedgerMatch
