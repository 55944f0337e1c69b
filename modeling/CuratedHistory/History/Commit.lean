import CuratedHistory.History.Instant

namespace CuratedHistory

/-! Commit metadata, ranges of commits, and the sides and outcome of a diff. -/

/-- The abbreviation of a hash: as many of its first characters as fill seven
bytes, or the whole hash if it is shorter. There is none when the seventh byte
lies inside a character. -/
def shortHash? (hash : Text) : Option Text :=
  if Text.byteLength hash ≤ 7 then some hash else takeBytes 7 hash
where
  takeBytes : Nat → Text → Option Text
    | 0, _ => some []
    | _ + 1, [] => none
    | n + 1, c :: rest =>
        if c.utf8Size ≤ n + 1 then (takeBytes (n + 1 - c.utf8Size) rest).map (c :: ·) else none
  termination_by _ text => text.length

/-- A hash with its abbreviation. -/
structure ShownHash where
  hash : Text
  short : Text
  deriving DecidableEq, Repr

def ShownHash.ofHash? (hash : Text) : Option ShownHash :=
  (shortHash? hash).map fun short => { hash, short }

/-- Forty hexadecimal digits. -/
def isFullHash (hash : Text) : Bool :=
  Text.byteLength hash == 40 && hash.all isHexDigit

structure Commit where
  hash : Text
  message : Text
  author : Text
  authorEmail : Text
  time : Instant
  /-- The hashes of the parents, the first parent first. -/
  parents : List Text
  deriving DecidableEq, Repr

namespace Commit

def firstParent? (commit : Commit) : Option Text :=
  commit.parents.head?

def isMerge (commit : Commit) : Bool :=
  1 < commit.parents.length

def isRoot (commit : Commit) : Bool :=
  commit.parents.isEmpty

def subject (commit : Commit) : Text :=
  (Text.lines commit.message).head?.getD []

/-- What follows the first line of the message, trimmed. -/
def body (commit : Commit) : Text :=
  match commit.message.dropWhile (· ≠ '\n') with
  | [] => []
  | _ :: rest => Text.trim rest

end Commit

/-- Commits after a base up to a tip, oldest first. -/
structure CommitRange where
  base : Text
  tip : Text
  commits : List Commit
  deriving DecidableEq, Repr

namespace CommitRange

def length (range : CommitRange) : Nat :=
  range.commits.length

def isEmpty (range : CommitRange) : Bool :=
  range.commits.isEmpty

def hashes (range : CommitRange) : List Text :=
  range.commits.map Commit.hash

def position? (range : CommitRange) (hash : Text) : Option Nat :=
  range.commits.findIdx? (·.hash == hash)

def find? (range : CommitRange) (hash : Text) : Option Commit :=
  range.commits.find? (·.hash == hash)

end CommitRange

/-- The hash of the tree without entries. -/
def emptyTreeHash : Text :=
  "4b825dc642cb6eb9a060e54bf8d69288fbee4904".toList

/-- The old side of a diff. -/
inductive DiffBase where
  | commit (hash : Text)
  | emptyTree
  deriving DecidableEq, Repr

namespace DiffBase

/-- What a commit is compared with: its first parent, or nothing. -/
def ofCommit (commit : Commit) : DiffBase :=
  match commit.firstParent? with
  | some parent => .commit parent
  | none => .emptyTree

def hash : DiffBase → Text
  | .commit hash => hash
  | .emptyTree => emptyTreeHash

end DiffBase

/-- A unified diff and its counts. -/
structure Patch where
  text : Text
  filesChanged : Nat
  insertions : Nat
  deletions : Nat
  deriving DecidableEq, Repr

namespace Patch

def isEmpty (patch : Patch) : Bool :=
  patch.filesChanged == 0

def shortStat (patch : Patch) : Text :=
  Decimal.digits patch.filesChanged ++
    (if patch.filesChanged = 1 then " file changed, +".toList else " files changed, +".toList) ++
    Decimal.digits patch.insertions ++ " -".toList ++ Decimal.digits patch.deletions

end Patch

end CuratedHistory
