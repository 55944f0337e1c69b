import CuratedHistory.Text.Utf8
import CuratedHistory.History.Commit

namespace CuratedHistory

/-! Repositories: commits, each with its whole tree of files, and names for them.
Metadata is stored as bytes, and read as text as far as it is text. -/

inductive FileMode where
  | regular
  | executable
  | symbolicLink
  /-- A commit of another repository, which is not stored in this one. -/
  | submodule
  deriving DecidableEq, Repr

/-- The digits that stand for a mode in a diff. -/
def FileMode.digits : FileMode → Text
  | .regular => "100644".toList
  | .executable => "100755".toList
  | .symbolicLink => "120000".toList
  | .submodule => "160000".toList

/-- What a mode says about the kind of thing that a path names. -/
inductive FileKind where
  | file
  | symbolicLink
  | submodule
  deriving DecidableEq, Repr

def FileMode.kind : FileMode → FileKind
  | .regular | .executable => .file
  | .symbolicLink => .symbolicLink
  | .submodule => .submodule

/-- A file of a tree, with the hash of its content. -/
structure TreeFile where
  path : Text
  mode : FileMode
  content : Bytes
  hash : Text
  deriving DecidableEq, Repr

/-- A submodule, whose content says which commit it names. -/
def TreeFile.ofSubmodule (path commit : Text) : TreeFile :=
  { path
    mode := .submodule
    content := Utf8.encode ("Subproject commit ".toList ++ commit ++ ['\n'])
    hash := commit }

structure StoredCommit where
  hash : Text
  /-- The hashes of the parents, the first parent first. -/
  parents : List Text
  message : Bytes
  author : Bytes
  email : Bytes
  /-- Seconds from the start of 1970. -/
  time : Int
  files : List TreeFile
  deriving DecidableEq, Repr

namespace StoredCommit

/-- The bytes before the first zero. -/
def beforeZero (bytes : Bytes) : Bytes :=
  bytes.takeWhile (· ≠ 0)

/-- Bytes that are dropped at the ends of names: blanks, control bytes and marks
other than a full stop. -/
def isCrud (byte : UInt8) : Bool :=
  byte ≤ 32 || (Utf8.encode ",:;<>\"\\'".toList).contains byte

def withoutCrud (bytes : Bytes) : Bytes :=
  ((bytes.dropWhile isCrud).reverse.dropWhile isCrud).reverse

def space : UInt8 := 32

def openAngle : UInt8 := 60

/-- Name and address as they are written together, cut at the last angle that opens. -/
def signature (commit : StoredCommit) : Bytes × Bytes :=
  let reversed := (commit.author ++ space :: openAngle :: commit.email).reverse
  ((reversed.dropWhile (· ≠ openAngle)).drop 1 |>.reverse,
    (reversed.takeWhile (· ≠ openAngle)).reverse)

def authorName (commit : StoredCommit) : Text :=
  (Utf8.decode? (beforeZero (withoutCrud commit.signature.1))).getD "Unknown".toList

def authorEmail (commit : StoredCommit) : Text :=
  (Utf8.decode? (beforeZero (withoutCrud commit.signature.2))).getD []

/-- The message without line feeds in front; a message that is no text is empty. -/
def messageText (commit : StoredCommit) : Text :=
  (Utf8.decode? (beforeZero (commit.message.dropWhile (· = lineFeed)))).getD []

def metadata (commit : StoredCommit) : Commit where
  hash := commit.hash
  message := commit.messageText
  author := commit.authorName
  authorEmail := commit.authorEmail
  time := Instant.ofSeconds commit.time
  parents := commit.parents

end StoredCommit

/-- A name for a commit. A tag with a message of its own is an object that stands
between the name and the commit. -/
structure Reference where
  /-- The name in full. -/
  name : Text
  target : Text
  annotated : Bool
  deriving DecidableEq, Repr

/-- What is checked out. -/
inductive Head where
  /-- The commit that a reference names, if there is such a reference. -/
  | reference (name : Text)
  | commit (hash : Text)
  deriving DecidableEq, Repr

structure Repository where
  commits : List StoredCommit
  references : List Reference
  head : Option Head
  deriving DecidableEq, Repr

namespace Repository

def find? (repository : Repository) (hash : Text) : Option StoredCommit :=
  repository.commits.find? (·.hash == hash)

def hashes (repository : Repository) : List Text :=
  repository.commits.map StoredCommit.hash

def contentHashes (repository : Repository) : List Text :=
  repository.commits.flatMap fun commit =>
    (commit.files.filter fun file => file.mode.kind ≠ .submodule).map TreeFile.hash

/-- The parents of a commit, given by hash. -/
def parents (repository : Repository) (hash : Text) : List Text :=
  match repository.find? hash with
  | some commit => commit.parents
  | none => []

end Repository

end CuratedHistory
