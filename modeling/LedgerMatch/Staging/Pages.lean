import LedgerMatch.Text.Bytes

/-!
# Staging files

A staging file consists of pages of one size. Its front tells the size and how the file is kept.
The first page begins the catalogue of tables, a tree of pages whose leaves hold a row for each
table. A file that was made but never written has no pages.
-/

namespace LedgerMatch

/-- The content of a staging file. -/
structure StagingPages where
  content : Bytes
  deriving DecidableEq

namespace StagingPages

/-! ### The front -/

/-- The bytes at the front of every staging file with pages. -/
def mark : Bytes := [83, 81, 76, 105, 116, 101, 32, 102, 111, 114, 109, 97, 116, 32, 51, 0]

/-- A byte of the content; behind its end all are zero. -/
def byte (f : StagingPages) (offset : Nat) : Nat := (f.content.getD offset 0).toNat

/-- The number in some bytes, the highest first. -/
def number (f : StagingPages) (start size : Nat) : Nat :=
  (List.range size).foldl (fun n i => 256 * n + f.byte (start + i)) 0

/-- Whether the file was made but never written. -/
def isBlank (f : StagingPages) : Bool := f.content.length ≤ 1

/-- The size of a page. The greatest size does not fit its two bytes and is written as one. -/
def pageSize (f : StagingPages) : Nat := if f.number 16 2 = 1 then 65536 else f.number 16 2

/-- The number of pages that the content fills, the last perhaps not to its end. -/
def filledPages (f : StagingPages) : Nat := (f.content.length + f.pageSize - 1) / f.pageSize

/-- The number of pages that the front tells, if it was brought up to date at the last change. -/
def toldPages (f : StagingPages) : Nat :=
  if f.number 24 4 = f.number 92 4 then f.number 28 4 else 0

/-- The number of pages that are used. -/
def pages (f : StagingPages) : Nat := if f.toldPages = 0 then f.filledPages else f.toldPages

/-- Whether a page begins a leaf or an inner node of the catalogue. -/
def isCatalogue (kind : Nat) : Bool := kind == 13 || kind == 5

/-- Whether changes of the file are kept in a log beside it. -/
def keepsLog (f : StagingPages) : Bool := !f.isBlank && f.byte 19 == 2

/-- Whether the file is kept in a later way, so that it can only be read. -/
def isReadOnly (f : StagingPages) : Bool := !f.isBlank && 2 < f.byte 18

/-! ### The catalogue -/

/-- A number in groups of seven bits, the highest first, and the bytes behind it. -/
def groupedNumber (n : Nat) : Bytes → Nat × Bytes
  | [] => (n, [])
  | b :: rest =>
      if b < 128 then (128 * n + b.toNat, rest) else groupedNumber (128 * n + (b.toNat - 128)) rest

/-- The length of a field, from the number that tells its kind. -/
def fieldLength (kind : Nat) : Nat :=
  if 12 ≤ kind then (kind - 12) / 2
  else [0, 1, 2, 3, 4, 6, 8, 8].getD kind 0

/-- The fields of a row, from the bytes that tell their kinds and the bytes that hold them. So many
are read. -/
def fields : Nat → Bytes → Bytes → List (Nat × Bytes)
  | 0, _, _ => []
  | n + 1, kinds, content =>
      let (kind, kinds) := groupedNumber 0 kinds
      (kind, content.take (fieldLength kind))
        :: fields n kinds (content.drop (fieldLength kind))

/-- A whole number in a field. -/
def fieldNumber : Nat × Bytes → Nat
  | (9, _) => 1
  | (kind, content) => if kind ≤ 6 then content.foldl (fun n b => 256 * n + b.toNat) 0 else 0

/-- The catalogue says of a thing of which kind it is, its name, and the page at its root. -/
structure CatalogueRow where
  kind : Bytes
  name : Bytes
  root : Nat
  deriving DecidableEq

def catalogueRow (f : StagingPages) (start : Nat) : CatalogueRow :=
  let row := (groupedNumber 0 (groupedNumber 0 (f.content.drop start)).2).2
  let (front, kinds) := groupedNumber 0 row
  match fields 4 kinds (row.drop front) with
  | [kind, name, _, root] => ⟨kind.2, name.2, fieldNumber root⟩
  | _ => ⟨[], [], 0⟩

/-- The rows of the catalogue at and below a page. The number bounds the depth. -/
def catalogueBelow (f : StagingPages) : Nat → Nat → List CatalogueRow
  | 0, _ => []
  | depth + 1, page =>
      let start := (page - 1) * f.pageSize
      let front := if page = 1 then 100 else start
      let cells (size : Nat) : List Nat :=
        (List.range (f.number (front + 3) 2)).map fun i => start + f.number (front + size + 2 * i) 2
      if f.byte front = 13 then (cells 8).map f.catalogueRow
      else if f.byte front = 5 then
        ((cells 12).map (f.number · 4) ++ [f.number (front + 8) 4]).flatMap (f.catalogueBelow depth)
      else []

def catalogue (f : StagingPages) : List CatalogueRow := f.catalogueBelow 20 1

/-! ### What is sound -/

/-- A front of a file that can be opened. -/
def hasSoundFront (f : StagingPages) : Bool :=
  f.content.take mark.length == mark
    && [512, 1024, 2048, 4096, 8192, 16384, 32768, 65536].contains f.pageSize
    && f.byte 19 ≤ 2 && f.number 21 3 == 0x402020 && f.byte 20 + 480 ≤ f.pageSize
    && f.number 44 4 ≤ 4 && isCatalogue (f.byte 100)

/-- A file that can be opened. Pages that it tells or that its catalogue names have to be there. -/
def isSound (f : StagingPages) : Bool :=
  f.isBlank ||
    (f.hasSoundFront && f.toldPages ≤ f.filledPages
      && f.catalogue.all fun row => row.root ≤ f.pages)

/-- The names of staging tables. -/
def tableNames : List String :=
  ["arguments", "banks", "system_trx", "bank_trx", "reconciliation_map"]

/-- Whether all staging tables are there. -/
def holdsTables (f : StagingPages) : Bool :=
  !f.isBlank && f.isSound && tableNames.all fun s =>
    f.catalogue.any fun row => row.kind == Text.encode "table" && row.name == Text.encode s

end StagingPages

end LedgerMatch
