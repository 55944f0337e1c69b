import CuratedHistory.Text.Basic

namespace CuratedHistory

/-! The commits that a plan may select, oldest first, and the resolution of
abbreviated hashes. A resolver is any function from a hash in lower case to a
full hash; the range itself is one, for the hashes of its own members. -/

inductive LookupError where
  | notFound
  | ambiguous
  deriving DecidableEq, Repr

abbrev Resolver := Text → Except LookupError Text

/-- The only text among the candidates that starts with the given one. -/
def resolveAmong (candidates : List Text) : Resolver := fun start =>
  match candidates.filter (start.isPrefixOf ·) with
  | [] => .error .notFound
  | [only] => .ok only
  | _ => .error .ambiguous

structure PlanRange where
  members : List Text
  deriving DecidableEq, Repr

namespace PlanRange

def distinct : List Text → List Text
  | [] => []
  | text :: rest => text :: (distinct rest).filter (· ≠ text)

/-- The range of full hashes in chain order. Hashes are kept in lower case, and
a repeated one at its first position. -/
def ofHashes (hashes : List Text) : PlanRange where
  members := distinct (hashes.map Text.lower)

def position? (range : PlanRange) (hash : Text) : Option Nat :=
  range.members.findIdx? (· == hash)

def contains (range : PlanRange) (hash : Text) : Bool :=
  range.members.contains hash

def get? (range : PlanRange) (position : Nat) : Option Text :=
  range.members[position]?

def length (range : PlanRange) : Nat :=
  range.members.length

def isEmpty (range : PlanRange) : Bool :=
  range.members.isEmpty

def resolver (range : PlanRange) : Resolver :=
  resolveAmong range.members

end PlanRange

end CuratedHistory
