import CuratedHistory.Plan.Parser
import CuratedHistory.Repository.Diff
import CuratedHistory.Repository.Range
import CuratedHistory.Report.Fragment
import CuratedHistory.Session.Editing

namespace CuratedHistory

/-! Plans for a range of a repository, from wherever they are to be taken. -/

namespace CommitRange

def planRange (range : CommitRange) : PlanRange :=
  PlanRange.ofHashes range.hashes

def defaultPlan (range : CommitRange) : Text :=
  CuratedHistory.defaultPlan (range.commits.map fun commit => (commit.hash, commit.subject))

end CommitRange

namespace Repository

/-- Parses a plan for a range. Hashes are resolved over the whole repository, so
that a commit outside the range is reported as what it is. -/
def parsePlan (repository : Repository) (range : CommitRange) (text : Text) :
    Except PlanError (List Record) :=
  CuratedHistory.parsePlan range.planRange repository.resolver text

def history (repository : Repository) : History where
  commit? hash := (repository.revision hash).toOption.map StoredCommit.metadata
  diff? base child := (repository.diff base child).toOption

end Repository

inductive PlanSource where
  | default
  | file (path : Text)
  | standardInput
  | edit
  deriving DecidableEq, Repr

inductive SourceError where
  | file (path : Text) (cause : FileError)
  | standardInput (cause : FileError)
  | plan (error : PlanError)
  | edit (error : EditError)
  deriving DecidableEq, Repr

namespace SourceError

def message : SourceError → Text
  | .file path cause =>
      "Failed to read plan file ".toList ++ path ++ ": ".toList ++ cause.message
  | .standardInput cause => "Failed to read plan from stdin: ".toList ++ cause.message
  | .plan error => "Invalid plan: ".toList ++ error.message
  | .edit error => error.message

/-- The message, and that of the error behind it if there is one. -/
def messages (error : SourceError) : List Text :=
  error.message ::
    match error with
    | .file _ cause => [cause.message]
    | .standardInput cause => [cause.message]
    | .plan error => [error.message]
    | .edit (.buffer cause) => [cause.message]
    | .edit (.editorFailed _ _) => []
    | .edit (.rejected _ error) => [error.message]

end SourceError

def byteOrderMark : Char := '\uFEFF'

/-- The text without the mark that some editors put in front. -/
def withoutMark : Text → Text
  | [] => []
  | c :: rest => if c = byteOrderMark then rest else c :: rest

/-- What plans are read from, beside files. -/
structure PlanInputs where
  standardInput : Bytes
  editor : Editor
  /-- How many editing sessions there may be. -/
  attempts : Nat

/-- What came of loading a plan, with the buffers that an editor was shown. -/
structure Loaded where
  shown : List Bytes
  result : Except SourceError (List Record)

namespace PlanSource

def readStandardInput (inputs : PlanInputs) : Except SourceError Text :=
  match Utf8.decode? inputs.standardInput with
  | some text => .ok (withoutMark text)
  | none => .error (.standardInput .notText)

def readFile (files : FileSystem) (path : Text) : Except SourceError Text :=
  match files.readText path with
  | .ok text => .ok (withoutMark text)
  | .error cause => .error (.file path cause)

def parseRead (repository : Repository) (range : CommitRange) (text : Except SourceError Text) :
    Loaded where
  shown := []
  result :=
    match text with
    | .error error => .error error
    | .ok text => (repository.parsePlan range text).mapError .plan

def load (source : PlanSource) (repository : Repository) (range : CommitRange)
    (files : FileSystem) (inputs : PlanInputs) : Loaded :=
  match source with
  | .default => parseRead repository range (.ok range.defaultPlan)
  | .file path => parseRead repository range (readFile files path)
  | .standardInput => parseRead repository range (readStandardInput inputs)
  | .edit =>
      let edited :=
        editPlan inputs.editor inputs.attempts (repository.parsePlan range) range.defaultPlan
      { shown := edited.shown, result := edited.result.mapError .edit }

end PlanSource

end CuratedHistory
