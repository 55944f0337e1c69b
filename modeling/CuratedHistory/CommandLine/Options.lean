import CuratedHistory.Text.Decimal

namespace CuratedHistory

/-! The arguments of the command line and of its two subcommands. -/

inductive ArgumentName where
  | base
  | tip
  | plan
  | planStdin
  | edit
  | repository
  | output
  | maxEditAttempts
  | markupConverter
  | noMarkupConverter
  | pdfConverter
  | title
  | verbose
  | quiet
  | help
  | version
  deriving DecidableEq, Repr

/-- Which texts an option takes as its value. -/
inductive ValueRule where
  | text
  /-- A text that is not empty. -/
  | path
  /-- A number from one up to the largest of 32 bits, with or without a plus sign. -/
  | count
  deriving DecidableEq, Repr

inductive OptionKind where
  | flag
  | value (rule : ValueRule)
  | help
  | version
  deriving DecidableEq, Repr

structure OptionForm where
  name : ArgumentName
  long : Text
  short : Option Char
  kind : OptionKind
  /-- The environment variable that stands in for the option, if there is one. -/
  standIn : Option Text
  deriving DecidableEq, Repr

/-- What a command accepts, beside a base and a tip. -/
structure CommandForm where
  options : List OptionForm
  subcommands : List Text
  deriving DecidableEq, Repr

namespace CommandForm

def findLong? (form : CommandForm) (long : Text) : Option OptionForm :=
  form.options.find? (·.long == long)

def findShort? (form : CommandForm) (short : Char) : Option OptionForm :=
  form.options.find? (·.short == some short)

end CommandForm

namespace OptionForm

def flag (name : ArgumentName) (long : String) (short : Option Char) : OptionForm :=
  { name, long := long.toList, short, kind := .flag, standIn := none }

def ofValue (name : ArgumentName) (long : String) (short : Option Char) (rule : ValueRule)
    (standIn : Option String) : OptionForm :=
  { name, long := long.toList, short, kind := .value rule
    standIn := standIn.map String.toList }

def help : OptionForm :=
  { name := .help, long := "help".toList, short := some 'h', kind := .help, standIn := none }

def version : OptionForm :=
  { name := .version, long := "version".toList, short := some 'V', kind := .version
    standIn := none }

/-- The options that say where the plan comes from, at most one of which is given. -/
def sources : List OptionForm :=
  [ofValue .plan "plan" none .path none, flag .planStdin "plan-stdin" none,
    flag .edit "edit" (some 'e')]

end OptionForm

def checkName : Text := "check".toList

def planName : Text := "plan".toList

def helpName : Text := "help".toList

namespace CommandForm

def report : CommandForm where
  options := OptionForm.sources ++ [
    .ofValue .repository "repo" (some 'r') .path (some "CHRONICLE_REPO"),
    .ofValue .output "output" (some 'o') .path (some "CHRONICLE_OUTPUT"),
    .ofValue .maxEditAttempts "max-edit-attempts" none .count none,
    .ofValue .markupConverter "markup-converter" none .text (some "CHRONICLE_MARKUP_CONVERTER"),
    .flag .noMarkupConverter "no-markup-converter" none,
    .ofValue .pdfConverter "pdf-converter" none .text (some "CHRONICLE_PDF_CONVERTER"),
    .ofValue .title "title" none .text none,
    .flag .verbose "verbose" (some 'v'),
    .flag .quiet "quiet" (some 'q'),
    .help, .version]
  subcommands := [checkName, planName, helpName]

def check : CommandForm where
  options := OptionForm.sources ++ [.help]
  subcommands := []

def plan : CommandForm where
  options := [.help]
  subcommands := []

end CommandForm

end CuratedHistory
