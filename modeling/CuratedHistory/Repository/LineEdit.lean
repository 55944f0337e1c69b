import CuratedHistory.Repository.LineChange

namespace CuratedHistory

/-! The edits that turn the lines of one content into those of another, and the
hunks in which they are shown. -/

inductive LineOrigin where
  | kept
  | removed
  | added
  deriving DecidableEq, Repr

structure LineEdit where
  origin : LineOrigin
  /-- The line with its line feed, which only a last line may lack. -/
  line : Bytes
  deriving DecidableEq, Repr

/-- The lines of a content, each with the line feed that ends it. -/
def contentLines : Bytes → List Bytes
  | [] => []
  | byte :: rest =>
      if byte = lineFeed then [byte] :: contentLines rest
      else
        match contentLines rest with
        | [] => [[byte]]
        | line :: following => (byte :: line) :: following

/-- The edits for lines that are marked as changed or not. Lines without a mark are
kept in pairs; a line that finds no equal one beside it is removed or added. -/
def markedEdits : List (Bytes × Bool) → List (Bytes × Bool) → List LineEdit
  | [], [] => []
  | (line, _) :: old, [] => ⟨.removed, line⟩ :: markedEdits old []
  | [], (next, _) :: new => ⟨.added, next⟩ :: markedEdits [] new
  | (line, lineChanged) :: old, (next, nextChanged) :: new =>
      if lineChanged then ⟨.removed, line⟩ :: markedEdits old ((next, nextChanged) :: new)
      else if nextChanged then ⟨.added, next⟩ :: markedEdits ((line, lineChanged) :: old) new
      else if line = next then ⟨.kept, line⟩ :: markedEdits old new
      else ⟨.removed, line⟩ :: markedEdits old ((next, nextChanged) :: new)
termination_by old new => old.length + new.length

def lineEdits (old new : List Bytes) : List LineEdit :=
  let (oldMarks, newMarks) := LineChange.marks old new
  markedEdits (old.zip oldMarks) (new.zip newMarks)

/-- Edits that are shown together, and how many old and new lines precede them. -/
structure Hunk where
  oldBefore : Nat
  newBefore : Nat
  edits : List LineEdit
  deriving DecidableEq, Repr

namespace Hunk

def contextLines : Nat := 3

/-- For each edit whether it is a change or follows one closely, given how many
more kept lines are shown. -/
def followsChange (more : Nat) : List LineEdit → List Bool
  | [] => []
  | edit :: rest =>
      if edit.origin = .kept then (0 < more) :: followsChange (more - 1) rest
      else true :: followsChange contextLines rest

/-- For each edit whether it is shown: it is a change, or close to one. -/
def shown (edits : List LineEdit) : List Bool :=
  List.zipWith or (followsChange 0 edits) (followsChange 0 edits.reverse).reverse

def oldLines (edits : List LineEdit) : Nat :=
  edits.countP (·.origin ≠ .added)

def newLines (edits : List LineEdit) : Nat :=
  edits.countP (·.origin ≠ .removed)

/-- The longest runs of edits that are shown, after numbers of lines. -/
def ofMarked (oldBefore newBefore : Nat) : List (LineEdit × Bool) → List Hunk
  | [] => []
  | (edit, isShown) :: rest =>
      let following :=
        ofMarked (oldBefore + oldLines [edit]) (newBefore + newLines [edit]) rest
      if !isShown then following
      else
        match rest, following with
        | (_, true) :: _, hunk :: following =>
            { oldBefore, newBefore, edits := edit :: hunk.edits } :: following
        | _, _ => { oldBefore, newBefore, edits := [edit] } :: following

def ofEdits (edits : List LineEdit) : List Hunk :=
  ofMarked 0 0 (edits.zip (shown edits))

end Hunk

end CuratedHistory
