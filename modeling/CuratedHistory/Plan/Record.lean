import CuratedHistory.Plan.Action

namespace CuratedHistory

/-! Accepted plan lines. -/

structure Record where
  /-- The line that the record comes from, counted from one. -/
  line : Nat
  action : Action
  /-- The full hash of the commit. -/
  commit : Text
  /-- Why the commit is dropped. -/
  reason : Option Text
  /-- The section that a bundled commit belongs to. -/
  sectionLabel : Option Text
  message : Option Text
  deriving DecidableEq, Repr

end CuratedHistory
