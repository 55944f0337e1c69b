import CuratedHistory.Text.Basic

namespace CuratedHistory

/-! Why a question to a repository has no answer. -/

inductive RepositoryError where
  | notFound (path : Text)
  | invalidReference (reference : Text)
  | ambiguousReference (reference : Text)
  | notAncestor (base tip : Text)
  /-- The base is an ancestor, but only through a parent that is not the first. -/
  | notOnFirstParentChain (base tip : Text)
  deriving DecidableEq, Repr

def RepositoryError.message : RepositoryError → Text
  | .notFound path => "Repository not found: ".toList ++ path
  | .invalidReference reference => "Invalid commit reference: ".toList ++ reference
  | .ambiguousReference reference => "Ambiguous commit reference: ".toList ++ reference
  | .notAncestor base tip => base ++ " is not an ancestor of ".toList ++ tip
  | .notOnFirstParentChain base tip =>
      base ++ " is not on the first-parent chain of ".toList ++ tip

end CuratedHistory
