import CuratedHistory.CommandLine.Settings
import CuratedHistory.Plan.Encoding
import CuratedHistory.Json.Printer
import CuratedHistory.Report.Written
import CuratedHistory.Repository.Opening

namespace CuratedHistory

/-! A run of the command line, from its arguments to what it prints and writes.
Nothing is written before the plan is accepted. -/

/-- All that a run can see. -/
structure Surroundings where
  files : FileSystem
  machine : Machine
  repositories : Repositories
  environment : Text → Option Text
  standardInput : Bytes
  /-- The editor that a command starts. -/
  editors : Text → Editor
  now : Instant

/-- Why a run ends early. -/
inductive RunError where
  | settings (error : SettingsError)
  | repository (error : RepositoryError)
  | range (base tip : Text) (error : RepositoryError)
  | plan (error : SourceError)
  | target (error : TargetError)
  | write (error : WriteError)
  /-- A hash of the range has no abbreviation. -/
  | hash
  deriving DecidableEq, Repr

/-- What went wrong, from the outside to the cause. -/
def RunError.messages : RunError → List Text
  | .settings error => ["Invalid configuration".toList, error.message]
  | .repository error => ["Failed to open repository".toList, error.message]
  | .range base tip error =>
      ["Failed to resolve range ".toList ++ base ++ "..".toList ++ tip, error.message]
  | .plan error => "Plan rejected".toList :: error.messages
  | .target error => [error.message]
  | .write error => ["Failed to write report".toList, error.message, error.cause.message]
  | .hash => []

/-- What a run leaves behind. -/
structure RunResult where
  code : Nat
  output : Text
  errors : Text
  /-- The buffers that an editor was shown. -/
  shown : List Bytes
  files : FileSystem
  deriving Repr

/-- What is printed on the way, and how the run ends. -/
structure Progress where
  output : Text
  warnings : List Text
  shown : List Bytes
  result : Except RunError Unit
  files : FileSystem
  deriving Repr

namespace Settings

def openRepository (settings : Settings) (surroundings : Surroundings) :
    Except RepositoryError Repository :=
  match settings.repository with
  | some path => surroundings.repositories.openAt surroundings.files path
  | none => surroundings.repositories.discover surroundings.files settings.repositoryPath

def findRange (settings : Settings) (surroundings : Surroundings) :
    Except RunError (Repository × CommitRange) :=
  match settings.validate surroundings.files with
  | .error error => .error (.settings error)
  | .ok () =>
      match settings.openRepository surroundings with
      | .error error => .error (.repository error)
      | .ok repository =>
          match repository.range settings.base settings.tip with
          | .error error => .error (.range settings.base settings.tip error)
          | .ok range => .ok (repository, range)

def editorOf (surroundings : Surroundings) : Editor :=
  surroundings.editors <| Editor.commandOf
    (surroundings.environment "VISUAL".toList) (surroundings.environment "EDITOR".toList)

/-- The places at which the standard input can be read as a file. -/
def inputPlaces : List Location :=
  [["dev", "stdin"], ["dev", "fd", "0"]].map (·.map String.toList)

def planFiles (surroundings : Surroundings) : FileSystem :=
  inputPlaces.foldl
    (fun files place =>
      (files.makeDirectories place.dropLast).put place (.file 0 surroundings.standardInput))
    surroundings.files

def loadPlan (settings : Settings) (surroundings : Surroundings) (repository : Repository)
    (range : CommitRange) : Loaded :=
  settings.source.load repository range (planFiles surroundings) {
    standardInput := surroundings.standardInput
    editor := editorOf surroundings
    attempts := settings.attempts }

def checkText (range : CommitRange) (blocks : List Block) : Text :=
  Json.pretty 0 (.object [
    ("base".toList, .string range.base), ("tip".toList, .string range.tip),
    ("summary".toList, (Summary.ofBlocks blocks).toJson),
    ("blocks".toList, Block.listToJson blocks)])

def target (settings : Settings) (files : FileSystem) (range : CommitRange) :
    Except RunError OutputTarget :=
  match settings.output with
  | some path =>
      match OutputTarget.ofPath files path with
      | .ok target => .ok target
      | .error error => .error (.target error)
  | none =>
      match OutputTarget.default? range.base range.tip with
      | some target => .ok target
      | none => .error .hash

def defaultTitle (base tip : ShownHash) : Text :=
  "History ".toList ++ base.short ++ "..".toList ++ tip.short

/-- The report on a range, if all hashes in it can be abbreviated. -/
def report? (settings : Settings) (surroundings : Surroundings) (repository : Repository)
    (range : CommitRange) (selection : Markup.Selection) (blocks : List Block) :
    Option Report := do
  let fragments ← Fragment.ofBlocks? repository.history selection.markup blocks
  let base ← ShownHash.ofHash? range.base
  let tip ← ShownHash.ofHash? range.tip
  return {
    title := settings.title.getD (defaultTitle base tip)
    base
    tip
    fragments
    notices := selection.notice.toList
    generated := surroundings.now }

def writeReport (settings : Settings) (surroundings : Surroundings) (repository : Repository)
    (range : CommitRange) (shown : List Bytes) (blocks : List Block) : Progress :=
  let files := surroundings.files
  let failed (error : RunError) : Progress :=
    { output := [], warnings := [], shown, result := .error error, files }
  match settings.target files range with
  | .error error => failed error
  | .ok target =>
      let selection := Markup.select surroundings.machine files settings.markupCommand
      match settings.report? surroundings repository range selection blocks with
      | none => failed .hash
      | some report =>
          let (written, files) :=
            report.write surroundings.machine files target settings.pdfConverter
          match written with
          | .error error =>
              { output := [], warnings := selection.notice.toList, shown
                result := .error (.write error), files }
          | .ok written =>
              { output := unlines [written.path]
                warnings := selection.notice.toList ++ written.degraded.toList
                shown, result := .ok (), files }

def perform (settings : Settings) (surroundings : Surroundings) : Progress :=
  let ended (output : Text) (shown : List Bytes) (result : Except RunError Unit) : Progress :=
    { output, warnings := [], shown, result, files := surroundings.files }
  match settings.findRange surroundings with
  | .error error => ended [] [] (.error error)
  | .ok (repository, range) =>
      if settings.command = .plan then ended range.defaultPlan [] (.ok ())
      else
        let loaded := settings.loadPlan surroundings repository range
        match loaded.result with
        | .error error => ended [] loaded.shown (.error (.plan error))
        | .ok records =>
            let blocks := compile records
            if settings.command = .check then
              ended (unlines [checkText range blocks]) loaded.shown (.ok ())
            else settings.writeReport surroundings repository range loaded.shown blocks

end Settings

namespace Progress

def warningText (warnings : List Text) : Text :=
  unlines (warnings.map ("warning: ".toList ++ ·))

def hashCode : Nat := 101

def errorText (error : RunError) : Text :=
  unlines ["Error: ".toList ++ Text.join ": ".toList error.messages]

def finish (progress : Progress) : RunResult :=
  let ended (code : Nat) (errors : Text) : RunResult :=
    { code, output := progress.output, errors := warningText progress.warnings ++ errors
      shown := progress.shown, files := progress.files }
  match progress.result with
  | .ok () => ended 0 []
  | .error .hash => ended hashCode []
  | .error error => ended 1 (errorText error)

end Progress

def run (surroundings : Surroundings) (arguments : List Text) : RunResult :=
  match Settings.ofArguments surroundings.environment arguments with
  | .error error =>
      { code := error.exitCode, output := [], errors := [], shown := []
        files := surroundings.files }
  | .ok settings => (settings.perform surroundings).finish

end CuratedHistory
