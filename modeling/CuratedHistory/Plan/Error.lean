import CuratedHistory.Text.Decimal
import CuratedHistory.Plan.Action

namespace CuratedHistory

/-! Why a plan is refused: the first offending line and what is wrong with it. -/

inductive Refusal where
  | unknownAction (keyword : Text)
  | missingHash
  | invalidHash (hash : Text)
  | unexpectedText (text : Text)
  | unknownCommit (hash : Text)
  | ambiguousCommit (hash : Text)
  | notInRange (commit : Text)
  | duplicate (commit : Text)
  | orderViolation (commit previous : Text)
  | labelNotAllowed (action : Action)
  | missingSectionLabel
  deriving DecidableEq, Repr

def Refusal.message : Refusal → Text
  | .unknownAction keyword =>
      "unknown action `".toList ++ keyword ++ "` (expected pick, drop, squash or bundle)".toList
  | .missingHash => "missing commit hash".toList
  | .invalidHash hash =>
      "`".toList ++ hash ++ "` is not a 7-40 character hex commit hash".toList
  | .unexpectedText text =>
      "unexpected text `".toList ++ text ++
        "` (annotations start with %, messages with #)".toList
  | .unknownCommit hash => "`".toList ++ hash ++ "` does not name a commit".toList
  | .ambiguousCommit hash => "`".toList ++ hash ++ "` is ambiguous".toList
  | .notInRange commit => "commit ".toList ++ commit ++ " is not in range".toList
  | .duplicate commit => "duplicate commit ".toList ++ commit
  | .orderViolation commit previous =>
      "order violation: ".toList ++ commit ++ " comes before ".toList ++ previous ++
        " in the range".toList
  | .labelNotAllowed action =>
      "`".toList ++ action.keyword ++ "` does not take a %annotation".toList
  | .missingSectionLabel => "first commit in a bundle run must include %SECTION".toList

structure PlanError where
  /-- Lines count from one. -/
  line : Nat
  /-- The refused line as it stands in the plan. -/
  text : Text
  cause : Refusal
  deriving DecidableEq, Repr

def PlanError.message (error : PlanError) : Text :=
  "line ".toList ++ Decimal.digits error.line ++ ": ".toList ++ error.cause.message ++
    ": ".toList ++ error.text

end CuratedHistory
