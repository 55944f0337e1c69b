import CuratedHistory.Text.Basic

namespace CuratedHistory

/-! What the lines of a unified diff are. File headers begin a file and end at its
first hunk, so that a removed line that starts with dashes is still a removal. -/

inductive DiffLineKind where
  /-- A line before the first hunk of a file. -/
  | fileHeader
  | hunkHeader
  | added
  | removed
  /-- An unchanged line, or anything else inside a hunk. -/
  | context
  deriving DecidableEq, Repr

namespace DiffLineKind

def className : DiffLineKind → String
  | .fileHeader => "diff-meta"
  | .hunkHeader => "diff-hunk"
  | .added => "diff-add"
  | .removed => "diff-del"
  | .context => "diff-ctx"

/-- The terminal sequence that starts the color of a line; context has none. -/
def color : DiffLineKind → Text
  | .fileHeader => "\x1b[1m".toList
  | .hunkHeader => "\x1b[36m".toList
  | .added => "\x1b[32m".toList
  | .removed => "\x1b[31m".toList
  | .context => []

end DiffLineKind

def fileStart : Text := "diff --git ".toList

def hunkStart : Text := "@@".toList

/-- The kind of a line, given whether it follows a hunk header of its file. -/
def DiffLineKind.ofLine (inHunk : Bool) (line : Text) : DiffLineKind :=
  if fileStart.isPrefixOf line then .fileHeader
  else if hunkStart.isPrefixOf line then .hunkHeader
  else if !inHunk then .fileHeader
  else
    match line with
    | '+' :: _ => .added
    | '-' :: _ => .removed
    | _ => .context

/-- Whether the line after one of a kind is inside a hunk. -/
def DiffLineKind.staysInHunk : DiffLineKind → Bool
  | .fileHeader => false
  | _ => true

/-- The kinds of lines, given whether the first one is inside a hunk. -/
def classifyFrom (inHunk : Bool) : List Text → List (DiffLineKind × Text)
  | [] => []
  | line :: rest =>
      let kind := DiffLineKind.ofLine inHunk line
      (kind, line) :: classifyFrom kind.staysInHunk rest

def classifyLines (text : Text) : List (DiffLineKind × Text) :=
  classifyFrom false (Text.lines text)

def colorReset : Text := "\x1b[0m".toList

def colorizeLine (kind : DiffLineKind) (line : Text) : Text :=
  if kind.color = [] then line else kind.color ++ line ++ colorReset

/-- The diff with terminal colors, each line with its own start and end. -/
def colorize (text : Text) : Text :=
  unlines ((classifyLines text).map fun entry => colorizeLine entry.1 entry.2)

end CuratedHistory
