import CuratedHistory.CommandLine.Arguments
import CuratedHistory.Report.Target
import CuratedHistory.Session.Source

namespace CuratedHistory

/-! What a run is asked to do. -/

inductive Command where
  /-- Write a report. -/
  | report
  /-- Show what a plan means. -/
  | check
  /-- Show the default plan. -/
  | plan
  deriving DecidableEq, Repr

inductive LogLevel where
  | debug
  | info
  | warn
  deriving DecidableEq, Repr

structure Settings where
  command : Command
  base : Text
  tip : Text
  source : PlanSource
  repository : Option Text
  output : Option Text
  attempts : Nat
  markupConverter : Text
  noMarkupConverter : Bool
  pdfConverter : Text
  title : Option Text
  verbose : Bool
  quiet : Bool
  deriving DecidableEq, Repr

inductive SettingsError where
  | repositoryMissing (path : Text)
  | repositoryNotDirectory (path : Text)
  | target (error : TargetError)
  deriving DecidableEq, Repr

def SettingsError.message : SettingsError → Text
  | .repositoryMissing path => "Repository path not found: ".toList ++ path
  | .repositoryNotDirectory path => "Repository path is not a directory: ".toList ++ path
  | .target error => error.message

namespace Given

def defaultTip : Text := "HEAD".toList

/-- The source of the plan among the options that are given. -/
def source (given : Given) : PlanSource :=
  match given.value? .plan with
  | some path => .file path
  | none =>
      if given.has .planStdin then .standardInput
      else if given.has .edit then .edit
      else .default

end Given

namespace Settings

def defaultAttempts : Nat := 3

def defaultMarkupConverter : Text := "aha --no-header".toList

def defaultPdfConverter : Text := "wkhtmltopdf".toList

def ofGiven (command : Command) (given own : Given) : Settings where
  command := command
  base := (own.value? .base).getD []
  tip := (own.value? .tip).getD Given.defaultTip
  source := own.source
  repository := given.value? .repository
  output := given.value? .output
  attempts := ((given.value? .maxEditAttempts).bind readCount?).getD defaultAttempts
  markupConverter := (given.value? .markupConverter).getD defaultMarkupConverter
  noMarkupConverter := given.has .noMarkupConverter
  pdfConverter := (given.value? .pdfConverter).getD defaultPdfConverter
  title := given.value? .title
  verbose := given.has .verbose
  quiet := given.has .quiet

/-- The settings that a command line asks for. A subcommand brings a range and a
source of its own. -/
def ofReadArguments (read : ReadArguments) : Settings :=
  match read.subcommand with
  | none => ofGiven .report read.given read.given
  | some (name, own) => ofGiven (if name = checkName then .check else .plan) read.given own

def ofArguments (environment : Text → Option Text) (arguments : List Text) :
    Except ArgumentError Settings :=
  (ReadArguments.ofArguments environment arguments).map ofReadArguments

def currentDirectory : Text := ".".toList

def repositoryPath (settings : Settings) : Text :=
  settings.repository.getD currentDirectory

/-- The command for diffs, unless it is switched off. -/
def markupCommand (settings : Settings) : Option Text :=
  if settings.noMarkupConverter then none else some settings.markupConverter

def logLevel (settings : Settings) : LogLevel :=
  if settings.verbose then .debug else if settings.quiet then .warn else .info

def validateRepository (settings : Settings) (files : FileSystem) : Except SettingsError Unit :=
  match settings.repository with
  | none => .ok ()
  | some path =>
      if !files.pathExists path then .error (.repositoryMissing path)
      else if !files.isDirectory path then .error (.repositoryNotDirectory path)
      else .ok ()

def validateOutput (settings : Settings) (files : FileSystem) : Except SettingsError Unit :=
  match settings.output with
  | none => .ok ()
  | some path =>
      match OutputTarget.ofPath files path with
      | .ok _ => .ok ()
      | .error error => .error (.target error)

/-- Refuses settings that name a repository or an output that cannot be used. -/
def validate (settings : Settings) (files : FileSystem) : Except SettingsError Unit := do
  settings.validateRepository files
  settings.validateOutput files

end Settings

end CuratedHistory
