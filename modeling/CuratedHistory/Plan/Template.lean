import CuratedHistory.Plan.Error

namespace CuratedHistory

/-! The text of plans: the default plan that seeds an editing session, and the
comment lines that tell the writer of a refused plan what went wrong. -/

def planHelp : Text :=
  unlines <| [
    "# Commands:",
    "#   pick   <hash> [# message]            render the commit with its own diff",
    "#   drop   <hash> [%reason] [# message]  omit the diff, leave a visible notice",
    "#   squash <hash> [# message]            fold consecutive squash lines into one diff",
    "#   bundle <hash> [%section] [# message] group consecutive bundle lines under a section;",
    "#                                        the first line of a run needs %section",
    "#",
    "# Lines must follow range order. Omitted commits are left out of the report.",
    "# Blank lines and lines starting with # are ignored. Write \\# for a literal",
    "# # inside an annotation."].map String.toList

/-- The line that picks a commit, with its subject as the message. -/
def pickLine (hash subject : Text) : Text :=
  match Text.nonBlank? subject with
  | some subject => "pick ".toList ++ hash ++ " # ".toList ++ subject
  | none => "pick ".toList ++ hash

/-- One pick for each commit, given by hash and subject, and the help. -/
def defaultPlan (commits : List (Text × Text)) : Text :=
  unlines (commits.map fun commit => pickLine commit.1 commit.2) ++ '\n' :: planHelp

def errorMarker : Text :=
  "# ERROR:".toList

def isErrorComment (line : Text) : Bool :=
  errorMarker.isPrefixOf (Text.trimStart line)

/-- The text without the comment lines that describe a refused plan. -/
def stripErrorComments (text : Text) : Text :=
  unlines ((Text.lines text).filter fun line => !isErrorComment line)

def errorComments (error : PlanError) : List Text :=
  [errorMarker ++ " line ".toList ++ Decimal.digits error.line ++ ": ".toList ++
      error.cause.message,
    errorMarker ++ "   ".toList ++ Text.trim error.text]

/-- The text with comments on this error in place of all earlier ones. They stand
at the end, so that the line number still counts the lines of the plan. -/
def withErrorComments (text : Text) (error : PlanError) : Text :=
  stripErrorComments text ++ unlines (errorComments error)

end CuratedHistory
