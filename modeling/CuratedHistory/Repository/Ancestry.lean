import CuratedHistory.Repository.Basic

namespace CuratedHistory

/-! Walks over the commits of a repository: to all that are reachable, and along
first parents only. A walk takes each commit that it meets out of those that
remain, so that it ends whatever the parents are. -/

/-- The nodes of a finite domain that pending ones lead to, each one once. -/
def reached {α : Type} [DecidableEq α] (next : α → List α) : List α → List α → List α
  | _, [] => []
  | domain, node :: pending =>
      if node ∈ domain then node :: reached next (domain.erase node) (next node ++ pending)
      else reached next domain pending
termination_by domain pending => (domain.length, pending.length)
decreasing_by
  · rename_i member
    have shorter := List.length_erase_of_mem member
    have positive := List.length_pos_of_mem member
    exact Prod.Lex.left _ _ (by omega)
  · exact Prod.Lex.right _ (by simp only [List.length_cons]; omega)

/-- The steps from a commit along first parents to a base, oldest commit first and
the base left out. There are none if the chain ends elsewhere. -/
def chainTo? (base : Text) (remaining : List StoredCommit) (hash : Text) :
    Option (List StoredCommit) :=
  if hash = base then some []
  else
    match _found : remaining.find? (·.hash == hash) with
    | none => none
    | some commit =>
        match commit.parents with
        | [] => none
        | parent :: _ =>
            (chainTo? base (remaining.erase commit) parent).map (· ++ [commit])
termination_by remaining.length
decreasing_by
  have member := List.mem_of_find?_eq_some _found
  have shorter := List.length_erase_of_mem member
  have positive := List.length_pos_of_mem member
  omega

namespace Repository

/-- The commit with the given hash and all that its parents lead to. -/
def ancestry (repository : Repository) (hash : Text) : List Text :=
  reached repository.parents repository.hashes [hash]

def isReachable (repository : Repository) (hash tip : Text) : Bool :=
  (repository.ancestry tip).contains hash

/-- The commits after a base up to a tip along first parents, oldest first. -/
def chain? (repository : Repository) (base tip : Text) : Option (List StoredCommit) :=
  chainTo? base repository.commits tip

end Repository

end CuratedHistory
