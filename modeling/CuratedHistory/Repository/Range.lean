import CuratedHistory.Repository.Ancestry
import CuratedHistory.Repository.Revision

namespace CuratedHistory.Repository

/-! The commits between two revisions, along first parents. -/

/-- The commits after a base up to a tip. The base has to be the tip or one of its
ancestors, and to lie on the chain of first parents. -/
def range (repository : Repository) (base tip : Text) : Except RepositoryError CommitRange :=
  match repository.revision base, repository.revision tip with
  | .error error, _ => .error error
  | .ok _, .error error => .error error
  | .ok first, .ok last =>
      if !repository.isReachable first.hash last.hash then .error (.notAncestor base tip)
      else
        match repository.chain? first.hash last.hash with
        | none => .error (.notOnFirstParentChain base tip)
        | some commits =>
            .ok {
              base := first.hash
              tip := last.hash
              commits := commits.map StoredCommit.metadata }

end CuratedHistory.Repository
