import CuratedHistory.Repository.LineEdit
import CuratedHistory.Repository.Revision

namespace CuratedHistory

/-! Unified diffs between the trees of two commits. A diff is a list of parts, and
its text is theirs, one after another. -/

def LineOrigin.mark : LineOrigin → Char
  | .kept => ' '
  | .removed => '-'
  | .added => '+'

inductive PatchPart where
  /-- All that precedes the first hunk of a file. -/
  | fileHeader (text : Text)
  /-- The line that stands for contents that are not text. -/
  | binary (text : Text)
  | hunkHeader (text : Text)
  | line (origin : LineOrigin) (content : Text)
  /-- What follows a line without a line feed. -/
  | noLineFeed
  deriving DecidableEq, Repr

def PatchPart.text : PatchPart → Text
  | .fileHeader text => text
  | .binary text => text
  | .hunkHeader text => text
  | .line origin content => origin.mark :: content
  | .noLineFeed => "\n\\ No newline at end of file\n".toList

def PatchPart.isFileHeader : PatchPart → Bool
  | .fileHeader _ => true
  | _ => false

def PatchPart.hasOrigin (origin : LineOrigin) : PatchPart → Bool
  | .line found _ => found == origin
  | _ => false

def Patch.ofParts (parts : List PatchPart) : Patch where
  text := parts.flatMap PatchPart.text
  filesChanged := parts.countP PatchPart.isFileHeader
  insertions := parts.countP (PatchPart.hasOrigin .added)
  deletions := parts.countP (PatchPart.hasOrigin .removed)

/-- A path with its two states, of which one may be missing. -/
structure FileChange where
  path : Text
  old : Option TreeFile
  new : Option TreeFile
  deriving DecidableEq, Repr

namespace FileChange

/-- The letters that stand for control characters after a backslash. -/
def escapeLetters : List (UInt8 × Char) :=
  [(7, 'a'), (8, 'b'), (9, 't'), (10, 'n'), (11, 'v'), (12, 'f'), (13, 'r'), (34, '"'),
    (92, '\\')]

def octal (byte : UInt8) : Text :=
  [byte.toNat / 64, byte.toNat / 8 % 8, byte.toNat % 8].map Decimal.digit

def isPlain (byte : UInt8) : Bool :=
  32 ≤ byte && byte ≤ 126 && byte ≠ 34 && byte ≠ 92

def quotedByte (byte : UInt8) : Text :=
  match escapeLetters.find? (·.1 == byte) with
  | some (_, letter) => ['\\', letter]
  | none => if isPlain byte then [Char.ofNat byte.toNat] else '\\' :: octal byte

/-- A path after a letter for its side. It is in quotes unless all its bytes are
printable and need no escape. -/
def shownPath (side : Char) (path : Text) : Text :=
  let whole := side :: '/' :: path
  let bytes := Utf8.encode whole
  if bytes.all isPlain then whole else '"' :: bytes.flatMap quotedByte ++ ['"']

def missingPath : Text := "/dev/null".toList

def oldPath (change : FileChange) : Text :=
  if change.old.isSome then shownPath 'a' change.path else missingPath

def newPath (change : FileChange) : Text :=
  if change.new.isSome then shownPath 'b' change.path else missingPath

def shortLength : Nat := 7

def shortOf (file : Option TreeFile) : Text :=
  match file with
  | some file => file.hash.take shortLength
  | none => List.replicate shortLength '0'

def indexText (change : FileChange) : Text :=
  "index ".toList ++ shortOf change.old ++ "..".toList ++ shortOf change.new

def hasNewContent (change : FileChange) : Bool :=
  change.old.map TreeFile.hash != change.new.map TreeFile.hash

def stateLines (change : FileChange) : List Text :=
  match change.old, change.new with
  | none, none => []
  | none, some new => ["new file mode ".toList ++ new.mode.digits, change.indexText]
  | some old, none => ["deleted file mode ".toList ++ old.mode.digits, change.indexText]
  | some old, some new =>
      if old.mode = new.mode then [change.indexText ++ ' ' :: new.mode.digits]
      else
        ["old mode ".toList ++ old.mode.digits, "new mode ".toList ++ new.mode.digits] ++
          (if change.hasNewContent then [change.indexText] else [])

/-- How many bytes are searched for a zero. -/
def searchedBytes : Nat := 8000

def isBinary (file : Option TreeFile) : Bool :=
  match file with
  | some file => (file.content.take searchedBytes).contains 0
  | none => false

def sideLines (change : FileChange) : List Text :=
  if change.hasNewContent && !isBinary change.old && !isBinary change.new then
    ["--- ".toList ++ change.oldPath, "+++ ".toList ++ change.newPath]
  else []

def headerText (change : FileChange) : Text :=
  unlines ([("diff --git ".toList ++ shownPath 'a' change.path ++
    ' ' :: shownPath 'b' change.path)] ++ change.stateLines ++ change.sideLines)

def binaryText (change : FileChange) : Text :=
  "Binary files ".toList ++ change.oldPath ++ " and ".toList ++ change.newPath ++
    " differ\n".toList

def linesOf (file : Option TreeFile) : List Bytes :=
  match file with
  | some file => contentLines file.content
  | none => []

/-- How many bytes of a line a hunk header repeats. -/
def headingBytes : Nat := 80

def isSpaceByte (byte : UInt8) : Bool :=
  byte = 32 || (9 ≤ byte && byte ≤ 13)

/-- What a hunk header repeats of a line that starts like a declaration. -/
def heading? (line : Bytes) : Option Bytes :=
  match (line.reverse.dropWhile isSpaceByte).reverse with
  | [] => none
  | first :: rest =>
      if (Char.ofNat first.toNat).isAlpha || first = 36 || first = 95 then
        some ((first :: rest).take headingBytes)
      else none

/-- The place of lines that follow others, and their number unless it is one. -/
def placeText (before count : Nat) : Text :=
  Decimal.digits (if count = 0 then before else before + 1) ++
    (if count = 1 then [] else ',' :: Decimal.digits count)

def hunkHeaderText (old : List Bytes) (hunk : Hunk) : Text :=
  let heading := (old.take hunk.oldBefore).reverse.findSome? heading?
  "@@ -".toList ++ placeText hunk.oldBefore (Hunk.oldLines hunk.edits) ++
    " +".toList ++ placeText hunk.newBefore (Hunk.newLines hunk.edits) ++ " @@".toList ++
    (match heading with
      | some bytes => ' ' :: Utf8.decodeLenient (Utf8.wellShapedStart bytes)
      | none => []) ++ ['\n']

def editParts (edit : LineEdit) : List PatchPart :=
  PatchPart.line edit.origin (Utf8.decodeLenient edit.line) ::
    (if edit.line.getLast? = some lineFeed then [] else [.noLineFeed])

def hunkParts (old : List Bytes) (hunk : Hunk) : List PatchPart :=
  .hunkHeader (hunkHeaderText old hunk) :: hunk.edits.flatMap editParts

def contentParts (change : FileChange) : List PatchPart :=
  if isBinary change.old || isBinary change.new then [.binary change.binaryText]
  else if !change.hasNewContent then []
  else
    let old := linesOf change.old
    (Hunk.ofEdits (lineEdits old (linesOf change.new))).flatMap (hunkParts old)

def parts (change : FileChange) : List PatchPart :=
  .fileHeader change.headerText :: change.contentParts

end FileChange

/-- The changes to one path. What becomes a thing of another kind is taken away and
put there again. -/
def changesAt (path : Text) (old new : Option TreeFile) : List FileChange :=
  match old, new with
  | none, none => []
  | some before, some after =>
      if before.hash = after.hash ∧ before.mode = after.mode then []
      else if before.mode.kind ≠ after.mode.kind then
        [{ path, old, new := none }, { path, old := none, new }]
      else [{ path, old, new }]
  | _, _ => [{ path, old, new }]

/-- The changes between two trees, in the order of the paths. -/
def changesBetween (old new : List TreeFile) : List FileChange :=
  let paths := PlanRange.distinct ((old ++ new).map TreeFile.path)
  (paths.mergeSort Text.atMost).flatMap fun path =>
    changesAt path (old.find? (·.path == path)) (new.find? (·.path == path))

def patchParts (old new : List TreeFile) : List PatchPart :=
  (changesBetween old new).flatMap FileChange.parts

namespace Repository

def baseFiles (repository : Repository) : DiffBase → Except RepositoryError (List TreeFile)
  | .emptyTree => .ok []
  | .commit text =>
      match repository.revision text with
      | .ok commit => .ok commit.files
      | .error error => .error error

def diffParts (repository : Repository) (base : DiffBase) (child : Text) :
    Except RepositoryError (List PatchPart) :=
  match repository.revision child with
  | .error error => .error error
  | .ok commit =>
      match repository.baseFiles base with
      | .error error => .error error
      | .ok files => .ok (patchParts files commit.files)

def diff (repository : Repository) (base : DiffBase) (child : Text) :
    Except RepositoryError Patch :=
  (repository.diffParts base child).map Patch.ofParts

end Repository

end CuratedHistory
