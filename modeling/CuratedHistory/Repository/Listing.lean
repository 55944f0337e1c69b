import Std.Data.HashMap
import CuratedHistory.Repository.LineEdit
import CuratedHistory.Repository.Revision

namespace CuratedHistory

/-! Repositories from listings of their objects and references. Each object is
listed as a line with its hash, kind and size, its content, and a line feed; each
reference as a line with the hash of its object and its full name. -/

structure StoredObject where
  hash : Text
  kind : Text
  content : Bytes
  deriving DecidableEq, Repr

/-- The hash, kind and size on the first line of an object. -/
def objectLine? (line : Bytes) : Option (Text × Text × Nat) :=
  match Text.words (Utf8.decodeLenient line) with
  | [hash, kind, size] => (Decimal.read? size).map fun size => (hash, kind, size)
  | _ => none

/-- The objects of a listing, up to the first line that describes none. -/
def readObjects (bytes : Bytes) : List StoredObject :=
  match bytes with
  | [] => []
  | first :: others =>
      let after := ((first :: others).dropWhile (· ≠ lineFeed)).drop 1
      match objectLine? ((first :: others).takeWhile (· ≠ lineFeed)) with
      | none => []
      | some (hash, kind, size) =>
          { hash, kind, content := after.take size } :: readObjects (after.drop (size + 1))
termination_by bytes.length
decreasing_by
  have le := (List.dropWhile_sublist (l := first :: others) (· ≠ lineFeed)).length_le
  simp only [List.length_drop, List.length_cons] at le ⊢
  omega

abbrev ObjectTable := Std.HashMap String StoredObject

def headerField? (name : String) (lines : List Bytes) : Option Bytes :=
  let start := Utf8.encode (name.toList ++ [' '])
  (lines.find? start.isPrefixOf).map fun line =>
    (line.drop start.length).takeWhile (· ≠ lineFeed)

def headerFields (name : String) (lines : List Bytes) : List Bytes :=
  lines.filterMap fun line => headerField? name [line]

def textOf (bytes : Option Bytes) : Text :=
  Utf8.decodeLenient (bytes.getD [])

def closeAngle : UInt8 := 62

def splitAtLast (byte : UInt8) (bytes : Bytes) : Bytes × Bytes :=
  (((bytes.reverse.dropWhile (· ≠ byte)).drop 1).reverse,
    (bytes.reverse.takeWhile (· ≠ byte)).reverse)

def secondsOf (line : Bytes) : Int :=
  match Text.words (Utf8.decodeLenient (splitAtLast closeAngle line).2) with
  | ('-' :: digits) :: _ => -(Decimal.value digits : Int)
  | digits :: _ => (Decimal.value digits : Int)
  | [] => 0

/-- The names of a tree with their modes and hashes. -/
structure TreeEntry where
  mode : Text
  name : Text
  hash : Text
  deriving DecidableEq, Repr

def hexByte (byte : UInt8) : Text :=
  [byte.toNat / 16, byte.toNat % 16].map fun n =>
    if n < 10 then Decimal.digit n else Char.ofNat (87 + n)

/-- The number of bytes of a hash. -/
def hashBytes : Nat := 20

def readTree (bytes : Bytes) : List TreeEntry :=
  match bytes with
  | [] => []
  | first :: others =>
      let label := (first :: others).takeWhile (· ≠ 0)
      let after := ((first :: others).dropWhile (· ≠ 0)).drop 1
      let (mode, name) := Text.splitAtFirst (· == ' ') (Utf8.decodeLenient label)
      { mode, name := name.drop 1, hash := (after.take hashBytes).flatMap hexByte } ::
        readTree (after.drop hashBytes)
termination_by bytes.length
decreasing_by
  have le := (List.dropWhile_sublist (l := first :: others) (· ≠ 0)).length_le
  simp only [List.length_drop, List.length_cons] at le ⊢
  omega

namespace ObjectTable

def content? (table : ObjectTable) (kind : String) (hash : Text) : Option Bytes :=
  (table[String.ofList hash]?).bind fun object =>
    if object.kind = kind.toList then some object.content else none

def fileModeOf (mode : Text) : FileMode :=
  if mode = "100755".toList then .executable
  else if mode = "120000".toList then .symbolicLink
  else .regular

/-- The files of a tree and of the trees in it, which are nested at most as deep as
the given number. -/
def filesOf (table : ObjectTable) (above : Text) : Nat → Text → List TreeFile
  | 0, _ => []
  | depth + 1, hash =>
      (readTree ((table.content? "tree" hash).getD [])).flatMap fun entry =>
        let path := above ++ entry.name
        if entry.mode = FileMode.submodule.digits then [.ofSubmodule path entry.hash]
        else match table.content? "blob" entry.hash with
        | some content => [{ path, mode := fileModeOf entry.mode, content, hash := entry.hash }]
        | none => table.filesOf (path ++ ['/']) depth entry.hash

def commitOf (table : ObjectTable) (hash : Text) (content : Bytes) : StoredCommit :=
  let lines := contentLines content
  let header := lines.takeWhile (· ≠ [lineFeed])
  let author := (splitAtLast closeAngle ((headerField? "author" header).getD [])).1
  { hash
    parents := (headerFields "parent" header).map Utf8.decodeLenient
    message := ((lines.dropWhile (· ≠ [lineFeed])).drop 1).flatten
    author := (splitAtLast StoredCommit.openAngle author).1
    email := (splitAtLast StoredCommit.openAngle author).2
    time := secondsOf ((headerField? "committer" header).getD [])
    files := table.filesOf [] table.size (textOf (headerField? "tree" header)) }

/-- The commit that a name reaches from an object, through at most the given number
of tags. -/
def targetOf (table : ObjectTable) : Nat → Text → Text
  | 0, hash => hash
  | tags + 1, hash =>
      match table.content? "tag" hash with
      | none => hash
      | some content => table.targetOf tags (textOf (headerField? "object" (contentLines content)))

def referenceOf? (table : ObjectTable) (line : Text) : Option Reference :=
  match Text.words line with
  | [hash, name] =>
      some {
        name
        target := table.targetOf table.size hash
        annotated := (table.content? "tag" hash).isSome }
  | _ => none

end ObjectTable

/-- What is checked out: a reference after its mark, or the hash of a commit. -/
def Head.ofText? (text : Text) : Option Head :=
  match Text.after? "ref: ".toList text with
  | some name => some (.reference (Text.trim name))
  | none => if Text.trim text = [] then none else some (.commit (Text.trim text))

/-- The repository of listings of its objects and references, and of its head. -/
def Repository.ofListings (objects : Bytes) (references head : Text) : Repository :=
  let listed := readObjects objects
  let table : ObjectTable :=
    listed.foldl (fun table object => table.insert (String.ofList object.hash) object) ∅
  { commits := (listed.filter (·.kind = "commit".toList)).map fun object =>
      table.commitOf object.hash object.content
    references := (Text.lines references).filterMap table.referenceOf?
    head := Head.ofText? head }

end CuratedHistory
