import LedgerMatch.Failure
import LedgerMatch.Text.Bytes

/-!
# File systems

What a run needs of the place where files lie: listing, opening, writing and removing. An opened
file may turn out to be unreadable only while it is read.
-/

namespace LedgerMatch

/-- What keeps a file from being read to its end. -/
inductive Interruption where
  /-- reading fails -/
  | fault (fault : FileFault)
  /-- the reader itself gives way -/
  | crash (reason : String)
  deriving DecidableEq

/-- An opened file, by what reading it to the end will show. -/
inductive Source where
  /-- the content, to its end -/
  | whole (content : Bytes)
  /-- some content, then a failure instead of an end -/
  | broken (content : Bytes) (fault : FileFault)
  /-- some content, then the reader itself gives way -/
  | crashing {content : Bytes} (reason : String)
  deriving DecidableEq

/-- A place for files. Operations that can change it return its state after them. -/
class FileSystem (φ : Type) where
  /-- the files at and below a path, in the order of paths -/
  walk : φ → Path → Except FileFault (List Path)
  openFile : φ → Path → Except FileFault Source
  /-- stores a content under a path -/
  write : φ → Path → Bytes → Except FileFault Unit × φ
  /-- removes everything at and below a path, if there is anything -/
  remove : φ → Path → Except FileFault Unit × φ

end LedgerMatch
