import CuratedHistory.Files.FileSystem
import CuratedHistory.Files.Path
import CuratedHistory.History.Commit

namespace CuratedHistory

/-! Where a report goes, and in which format. -/

inductive OutputFormat where
  /-- Made from HTML by a converter. -/
  | pdf
  | html
  deriving DecidableEq, Repr

structure OutputTarget where
  path : Text
  format : OutputFormat
  deriving DecidableEq, Repr

inductive TargetError where
  /-- The extension is in lower case. -/
  | unsupportedExtension (path extension : Text)
  | isDirectory (path : Text)
  | parentMissing (parent : Text)
  deriving DecidableEq, Repr

def TargetError.message : TargetError → Text
  | .unsupportedExtension path extension =>
      "Unsupported output extension '.".toList ++ extension ++ "' for ".toList ++ path ++
        " (use .pdf, .html or .htm)".toList
  | .isDirectory path => "Output path is a directory: ".toList ++ path
  | .parentMissing parent => "Output directory does not exist: ".toList ++ parent

namespace OutputTarget

def formatOf? (extension : Text) : Option OutputFormat :=
  if extension = "pdf".toList then some .pdf
  else if extension = "html".toList ∨ extension = "htm".toList then some .html
  else none

/-- The target that a path means: in a directory that exists, and not a directory
itself. A path without extension gets the one of PDF files. -/
def ofPath (files : FileSystem) (path : Text) : Except TargetError OutputTarget :=
  if files.isDirectory path then .error (.isDirectory path)
  else
    match (Path.parent? path).filter fun parent => parent ≠ [] ∧ !files.isDirectory parent with
    | some parent => .error (.parentMissing parent)
    | none =>
        match Path.extension? path with
        | none => .ok { path := path ++ ".pdf".toList, format := .pdf }
        | some extension =>
            match formatOf? (Text.lower extension) with
            | some format => .ok { path, format }
            | none => .error (.unsupportedExtension path (Text.lower extension))

/-- The target for a range when no path is given, if its ends can be abbreviated. -/
def default? (base tip : Text) : Option OutputTarget := do
  let base ← shortHash? base
  let tip ← shortHash? tip
  return {
    path := "history-".toList ++ base ++ "..".toList ++ tip ++ ".pdf".toList
    format := .pdf }

def htmlFallback (target : OutputTarget) : Text :=
  match target.format with
  | .html => target.path
  | .pdf => Path.withExtension "html".toList target.path

end OutputTarget

end CuratedHistory
