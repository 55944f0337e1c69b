import Mathlib.Data.List.Chain
import Mathlib.Data.List.Perm.Subperm
import CuratedHistory.Repository.Revision
import CuratedHistory.Proofs.Repository.Reachability

namespace CuratedHistory

/-! Chains of first parents, as they are stored, and what the walk that takes commits
out of the repository has to do with them. Without cycles it never misses a commit that
it has taken out, and so it walks along the stored chain as if nothing were missing. -/

/-- The commits after a base up to a tip, each the first parent of the next one. -/
inductive FirstParentChain (repository : Repository) (base : Text) : Text → List StoredCommit → Prop where
  | arrived : FirstParentChain repository base base []
  | step {tip parent : Text} {commit : StoredCommit} {commits : List StoredCommit}
      (found : repository.find? tip = some commit) (first : commit.parents.head? = some parent)
      (earlier : FirstParentChain repository base parent commits) :
      FirstParentChain repository base tip (commits ++ [commit])

namespace Repository

variable {repository : Repository} {hash tip parent : Text} {commit earlier : StoredCommit}

theorem hasParent_of_first (found : repository.find? tip = some commit)
    (first : commit.parents.head? = some parent) : repository.HasParent tip parent := by
  rw [HasParent, parents_of_find? found]
  exact List.mem_of_head? first

theorem Acyclic.ne_of_hasParent (acyclic : repository.Acyclic) (edge : repository.HasParent tip parent)
    (reaches : repository.Reaches parent hash) : hash ≠ tip := by
  rintro rfl
  exact acyclic hash (Relation.TransGen.head' edge reaches)

theorem firstParentsBack?_succ {count : Nat} :
    repository.firstParentsBack? (count + 1) commit = some earlier ↔
      ∃ parent between, commit.parents.head? = some parent ∧ repository.find? parent = some between ∧
        repository.firstParentsBack? count between = some earlier := by
  simp [firstParentsBack?, Option.bind_eq_some_iff]

theorem firstParentsBack?_stored {count : Nat} (stored : repository.find? commit.hash = some commit)
    (leads : repository.firstParentsBack? count commit = some earlier) :
    repository.find? earlier.hash = some earlier := by
  induction count generalizing commit with
  | zero =>
      cases leads
      exact stored
  | succ count ih =>
      obtain ⟨parent, between, _, found, rest⟩ := firstParentsBack?_succ.1 leads
      exact ih (by rwa [find?_hash found]) rest

end Repository

namespace FirstParentChain

variable {repository : Repository} {base tip : Text} {commits : List StoredCommit}
  {commit first last : StoredCommit}

theorem reaches (chain : FirstParentChain repository base tip commits) : repository.Reaches tip base := by
  induction chain with
  | arrived => exact .refl
  | step found first _ ih => exact .head (Repository.hasParent_of_first found first) ih

theorem reaches_mem (chain : FirstParentChain repository base tip commits) (member : commit ∈ commits) :
    repository.Reaches tip commit.hash := by
  induction chain with
  | arrived => contradiction
  | step found first _ ih =>
      rcases List.mem_append.1 member with before | newest
      · exact .head (Repository.hasParent_of_first found first) (ih before)
      · rw [List.mem_singleton.1 newest, Repository.find?_hash found]
        exact .refl

theorem stored (chain : FirstParentChain repository base tip commits) (member : commit ∈ commits) :
    repository.find? commit.hash = some commit := by
  induction chain with
  | arrived => contradiction
  | step found _ _ ih =>
      rcases List.mem_append.1 member with before | newest
      · exact ih before
      · rw [List.mem_singleton.1 newest, Repository.find?_hash found]
        exact found

/-- The chain is empty where it starts, and otherwise ends with the commit of the tip. -/
theorem cases_last (chain : FirstParentChain repository base tip commits) :
    (commits = [] ∧ tip = base) ∨
      ∃ before commit, commits = before ++ [commit] ∧ repository.find? tip = some commit := by
  cases chain with
  | arrived => exact .inl ⟨rfl, rfl⟩
  | step found _ _ => exact .inr ⟨_, _, rfl, found⟩

theorem head_parent (chain : FirstParentChain repository base tip commits)
    (oldest : commits.head? = some commit) : commit.parents.head? = some base := by
  induction chain with
  | arrived => contradiction
  | step found first before ih =>
      rcases before.cases_last with ⟨rfl, rfl⟩ | ⟨earlier, newest, rfl, _⟩
      · cases oldest
        exact first
      · exact ih (by simpa using oldest)

theorem linked (chain : FirstParentChain repository base tip commits) :
    commits.IsChain fun earlier later => later.parents.head? = some earlier.hash := by
  induction chain with
  | arrived => exact .nil
  | step found first before ih =>
      refine List.isChain_append.2 ⟨ih, .singleton _, ?_⟩
      rintro earlier newest later only
      cases only
      rcases before.cases_last with ⟨rfl, rfl⟩ | ⟨others, parent, rfl, parentFound⟩
      · contradiction
      · simp only [List.getLast?_append, List.getLast?_singleton, Option.some_or, Option.mem_def,
          Option.some.injEq] at newest
        subst newest
        rw [first, Repository.find?_hash parentFound]

theorem base_notMem (acyclic : repository.Acyclic) (chain : FirstParentChain repository base tip commits) :
    base ∉ commits.map StoredCommit.hash := by
  induction chain with
  | arrived => simp
  | step found first before ih =>
      have apart := acyclic.ne_of_hasParent (Repository.hasParent_of_first found first) before.reaches
      simp only [List.map_append, List.map_cons, List.map_nil, List.mem_append, List.mem_singleton, not_or]
      exact ⟨ih, by rwa [Repository.find?_hash found]⟩

theorem nodup (acyclic : repository.Acyclic) (chain : FirstParentChain repository base tip commits) :
    (commits.map StoredCommit.hash).Nodup := by
  induction chain with
  | arrived => simp
  | step found first before ih =>
      have edge := Repository.hasParent_of_first found first
      rw [List.map_append, List.nodup_append]
      refine ⟨ih, by simp, ?_⟩
      intro hash member newest only
      obtain ⟨commit, inside, rfl⟩ := List.mem_map.1 member
      rw [List.map_singleton, List.mem_singleton, Repository.find?_hash found] at only
      subst only
      exact acyclic.ne_of_hasParent edge (before.reaches_mem inside)

theorem find?_tip (chain : FirstParentChain repository base tip commits)
    (baseFound : repository.find? base = some first) : ∃ commit, repository.find? tip = some commit := by
  rcases chain.cases_last with ⟨_, rfl⟩ | ⟨_, commit, _, found⟩
  · exact ⟨first, baseFound⟩
  · exact ⟨commit, found⟩

/-- A chain leads to the base in as many steps as it has commits. -/
theorem firstParentsBack? (chain : FirstParentChain repository base tip commits)
    (baseFound : repository.find? base = some first) (tipFound : repository.find? tip = some last) :
    repository.firstParentsBack? commits.length last = some first := by
  induction chain generalizing last with
  | arrived =>
      rw [baseFound] at tipFound
      cases tipFound
      rfl
  | step found parent before ih =>
      rw [found] at tipFound
      cases tipFound
      obtain ⟨between, betweenFound⟩ := before.find?_tip baseFound
      rw [List.length_append, List.length_singleton, Repository.firstParentsBack?_succ]
      exact ⟨_, between, parent, betweenFound, ih betweenFound⟩

theorem of_firstParentsBack? {count : Nat} (tipFound : repository.find? tip = some last)
    (leads : repository.firstParentsBack? count last = some first) :
    ∃ commits, commits.length = count ∧ FirstParentChain repository first.hash tip commits := by
  induction count generalizing tip last with
  | zero =>
      cases leads
      rw [Repository.find?_hash tipFound]
      exact ⟨[], rfl, .arrived⟩
  | succ count ih =>
      obtain ⟨parent, between, newest, found, rest⟩ := Repository.firstParentsBack?_succ.1 leads
      obtain ⟨commits, length, chain⟩ := ih found rest
      exact ⟨commits ++ [last], by simp [length], .step tipFound newest chain⟩

/-- A chain is shorter than the list of all commits: its commits and its base are
stored, and no two of them are one. -/
theorem length_lt (acyclic : repository.Acyclic) (chain : FirstParentChain repository base tip commits)
    (baseFound : repository.find? base = some first) : commits.length < repository.commits.length := by
  have distinct : (base :: commits.map StoredCommit.hash).Nodup :=
    List.nodup_cons.2 ⟨chain.base_notMem acyclic, chain.nodup acyclic⟩
  have inside : base :: commits.map StoredCommit.hash ⊆ repository.hashes := by
    intro hash member
    rcases List.mem_cons.1 member with rfl | later
    · exact Repository.hash_mem_of_find? baseFound
    · obtain ⟨commit, among, rfl⟩ := List.mem_map.1 later
      exact Repository.hash_mem_of_find? (chain.stored among)
  have bounded := (distinct.subperm inside).length_le
  simp only [List.length_cons, List.length_map, Repository.hashes] at bounded
  omega

end FirstParentChain

/-! The walk in `chainTo?` -/

/-- The commits that remain are enough for a walk from the given hash. -/
def Covers (repository : Repository) (remaining : List StoredCommit) (hash : Text) : Prop :=
  ∀ later, repository.Reaches hash later → remaining.find? (·.hash == later) = repository.find? later

theorem find?_erase_of_false {α : Type} [DecidableEq α] {items : List α} {item : α} {test : α → Bool}
    (fails : test item = false) : (items.erase item).find? test = items.find? test := by
  induction items with
  | nil => rfl
  | cons head rest ih =>
      by_cases same : head = item
      · subst same
        rw [List.erase_cons_head, List.find?_cons, fails]
      · rw [List.erase_cons_tail (by simpa using same), List.find?_cons, List.find?_cons, ih]

section Walk

variable {repository : Repository} {base tip parent : Text} {remaining commits : List StoredCommit}
  {commit : StoredCommit}

/-- Without cycles, a commit that was walked past is none of those that come later. -/
theorem Covers.erase (covers : Covers repository remaining tip) (acyclic : repository.Acyclic)
    (found : repository.find? tip = some commit) (first : commit.parents.head? = some parent) :
    Covers repository (remaining.erase commit) parent := by
  intro later reaches
  have edge := Repository.hasParent_of_first found first
  have apart : commit.hash ≠ later := by
    rw [Repository.find?_hash found]
    exact (acyclic.ne_of_hasParent edge reaches).symm
  rw [find?_erase_of_false (by simpa using apart)]
  exact covers later (.head edge reaches)

theorem chainTo?_eq_some_iff :
    chainTo? base remaining tip = some commits ↔
      (tip = base ∧ commits = []) ∨
        (tip ≠ base ∧ ∃ commit parent before, remaining.find? (·.hash == tip) = some commit ∧
          commit.parents.head? = some parent ∧
          chainTo? base (remaining.erase commit) parent = some before ∧ commits = before ++ [commit]) := by
  rw [chainTo?]
  by_cases arrived : tip = base
  · simp [arrived, eq_comm]
  · simp only [arrived, if_false, false_and, false_or, ne_eq, not_false_eq_true, true_and]
    split
    · rename_i missing
      simp [missing]
    · rename_i commit found
      cases parents : commit.parents with
      | nil => simp [found, parents]
      | cons parent others => simp [found, parents, eq_comm (b := commits)]

theorem chain_of_chainTo? (acyclic : repository.Acyclic) (covers : Covers repository remaining tip)
    (walked : chainTo? base remaining tip = some commits) : FirstParentChain repository base tip commits := by
  -- The walk itself says nothing of chains, so the induction is on what remains for it.
  induction length : remaining.length using Nat.strong_induction_on generalizing remaining tip commits with
  | _ count ih =>
      rcases chainTo?_eq_some_iff.1 walked with ⟨rfl, rfl⟩ | ⟨_, commit, parent, before, found, first,
        rest, rfl⟩
      · exact .arrived
      · have member := List.mem_of_find?_eq_some found
        rw [covers tip .refl] at found
        have shorter : (remaining.erase commit).length < count := by
          rw [List.length_erase_of_mem member, ← length]
          exact Nat.sub_lt (List.length_pos_of_mem member) Nat.one_pos
        exact .step found first (ih _ shorter (covers.erase acyclic found first) rest rfl)

theorem chainTo?_of_chain (acyclic : repository.Acyclic) (covers : Covers repository remaining tip)
    (chain : FirstParentChain repository base tip commits) : chainTo? base remaining tip = some commits := by
  induction chain generalizing remaining with
  | arrived => exact chainTo?_eq_some_iff.2 (.inl ⟨rfl, rfl⟩)
  | step found first before ih =>
      have edge := Repository.hasParent_of_first found first
      have apart := (acyclic.ne_of_hasParent edge before.reaches).symm
      have remains := (covers _ .refl).trans found
      exact chainTo?_eq_some_iff.2
        (.inr ⟨apart, _, _, _, remains, first, ih (covers.erase acyclic found first), rfl⟩)

theorem Repository.chain?_eq_some_iff (acyclic : repository.Acyclic) :
    repository.chain? base tip = some commits ↔ FirstParentChain repository base tip commits := by
  have covers : Covers repository repository.commits tip := fun _ _ => rfl
  exact ⟨chain_of_chainTo? acyclic covers, chainTo?_of_chain acyclic covers⟩

/-- Two commits have one chain between them at most, since one walk finds them all. -/
theorem FirstParentChain.unique {others : List StoredCommit} (acyclic : repository.Acyclic)
    (chain : FirstParentChain repository base tip commits)
    (other : FirstParentChain repository base tip others) : commits = others := by
  have walked := (Repository.chain?_eq_some_iff acyclic).2 chain
  rw [(Repository.chain?_eq_some_iff acyclic).2 other] at walked
  exact (Option.some.inj walked).symm

end Walk

end CuratedHistory
