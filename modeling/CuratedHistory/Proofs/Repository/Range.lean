import CuratedHistory.Repository.Range
import CuratedHistory.Proofs.Repository.FirstParents

namespace CuratedHistory

/-! Ranges of a repository without cycles: which of them there are, why the others are
refused, and what commits they have. -/

/-- The commits of a range are the first parents of a tip as far back as a base that is
left out. Each stands after its first parent, and the tip is the last. -/
structure FirstParentRange (repository : Repository) (first last : StoredCommit) (range : CommitRange) :
    Prop where
  base : range.base = first.hash
  tip : range.tip = last.hash
  stored : ∀ commit ∈ range.commits,
    ∃ stored, repository.find? commit.hash = some stored ∧ commit = stored.metadata
  distinct : range.hashes.Nodup
  withoutBase : first.hash ∉ range.hashes
  oldest : ∀ commit, range.commits.head? = some commit → commit.firstParent? = some first.hash
  linked : range.commits.IsChain fun earlier later => later.firstParent? = some earlier.hash
  latest : ∀ commit, range.commits.getLast? = some commit → commit = last.metadata
  steps : ∀ count, repository.firstParentsBack? count last = some first ↔ count = range.length
  empty : range.isEmpty = true ↔ first.hash = last.hash

/-- A number of steps along first parents lead from the one commit to the other. -/
def OnFirstParentChain (repository : Repository) (last first : StoredCommit) : Prop :=
  ∃ count, repository.firstParentsBack? count last = some first

namespace Repository

variable {repository : Repository} {base tip text : Text} {commit first last : StoredCommit}
  {commits : List StoredCommit}

theorem commitOf?_stored {object : Object} (found : repository.commitOf? object = some commit) :
    repository.find? commit.hash = some commit := by
  cases object with
  | commit hash => rwa [find?_hash found]
  | tag target => rwa [find?_hash found]
  | content => contradiction

theorem revision_stored (resolved : repository.revision text = .ok commit) :
    repository.find? commit.hash = some commit := by
  unfold revision at resolved
  split at resolved
  · contradiction
  · cases start : repository.startObject (Revision.ofText text).start with
    | error error => cases error <;> simp [start] at resolved
    | ok object =>
        cases peeled : ((Revision.ofText text).steps.foldlM repository.step? object).bind
            repository.commitOf? with
        | none => simp [start, peeled] at resolved
        | some found =>
            simp only [start, peeled, Except.ok.injEq] at resolved
            subst resolved
            obtain ⟨reached, _, named⟩ := Option.bind_eq_some_iff.1 peeled
            exact commitOf?_stored named

/-- The chain of first parents as a range. -/
theorem firstParentRange_of_chain (acyclic : repository.Acyclic)
    (baseFound : repository.find? first.hash = some first) (tipFound : repository.find? last.hash = some last)
    (chain : FirstParentChain repository first.hash last.hash commits) :
    FirstParentRange repository first last
      { base := first.hash, tip := last.hash, commits := commits.map StoredCommit.metadata } := by
  have hashes : (commits.map StoredCommit.metadata).map Commit.hash = commits.map StoredCommit.hash :=
    List.map_map
  constructor
  case base | tip => rfl
  case stored =>
    intro commit member
    obtain ⟨stored, inside, rfl⟩ := List.mem_map.1 member
    exact ⟨stored, chain.stored inside, rfl⟩
  case distinct =>
    rw [CommitRange.hashes, hashes]
    exact chain.nodup acyclic
  case withoutBase =>
    rw [CommitRange.hashes, hashes]
    exact chain.base_notMem acyclic
  case oldest =>
    intro commit head
    obtain ⟨stored, oldest, rfl⟩ := Option.map_eq_some_iff.1 (List.head?_map ▸ head)
    exact chain.head_parent oldest
  case linked => exact (List.isChain_map _).2 chain.linked
  case latest =>
    intro commit newest
    obtain ⟨stored, isLast, rfl⟩ := Option.map_eq_some_iff.1 (List.getLast?_map ▸ newest)
    rcases chain.cases_last with ⟨rfl, _⟩ | ⟨before, commit, rfl, found⟩
    · contradiction
    · rw [tipFound] at found
      cases found
      rw [List.getLast?_concat] at isLast
      cases isLast
      rfl
  case steps =>
    intro count
    rw [CommitRange.length, List.length_map]
    constructor
    · intro leads
      obtain ⟨others, length, other⟩ := FirstParentChain.of_firstParentsBack? tipFound leads
      rw [← length, chain.unique acyclic other]
    · rintro rfl
      exact chain.firstParentsBack? baseFound tipFound
  case empty =>
    rw [CommitRange.isEmpty, List.isEmpty_iff, List.map_eq_nil_iff]
    constructor
    · rintro rfl
      rcases chain.cases_last with ⟨_, same⟩ | ⟨before, commit, impossible, _⟩
      · exact same.symm
      · simp at impossible
    · intro same
      rw [← same] at chain
      exact chain.unique acyclic .arrived

theorem onFirstParentChain_iff (baseFound : repository.find? first.hash = some first)
    (tipFound : repository.find? last.hash = some last) :
    OnFirstParentChain repository last first ↔
      ∃ commits, FirstParentChain repository first.hash last.hash commits := by
  constructor
  · rintro ⟨count, leads⟩
    obtain ⟨commits, _, chain⟩ := FirstParentChain.of_firstParentsBack? tipFound leads
    exact ⟨commits, chain⟩
  · rintro ⟨commits, chain⟩
    exact ⟨commits.length, chain.firstParentsBack? baseFound tipFound⟩

theorem reaches_of_onFirstParentChain (tipFound : repository.find? last.hash = some last)
    (on : OnFirstParentChain repository last first) : repository.Reaches last.hash first.hash := by
  obtain ⟨count, leads⟩ := on
  obtain ⟨commits, _, chain⟩ := FirstParentChain.of_firstParentsBack? tipFound leads
  exact chain.reaches

theorem range_of_not_reaches (baseFound : repository.revision base = .ok first)
    (tipFound : repository.revision tip = .ok last) (apart : ¬ repository.Reaches last.hash first.hash) :
    repository.range base tip = .error (.notAncestor base tip) := by
  have unreachable : repository.isReachable first.hash last.hash = false := by
    rw [Bool.eq_false_iff, ne_eq, isReachable_iff]
    exact fun reached => apart reached.2
  simp [range, baseFound, tipFound, unreachable]

theorem isReachable_of_reaches (baseFound : repository.revision base = .ok first)
    (reaches : repository.Reaches last.hash first.hash) :
    repository.isReachable first.hash last.hash = true :=
  isReachable_iff.2 ⟨hash_mem_of_find? (revision_stored baseFound), reaches⟩

theorem range_of_no_chain (baseFound : repository.revision base = .ok first)
    (tipFound : repository.revision tip = .ok last) (reaches : repository.Reaches last.hash first.hash)
    (walked : repository.chain? first.hash last.hash = none) :
    repository.range base tip = .error (.notOnFirstParentChain base tip) := by
  simp [range, baseFound, tipFound, isReachable_of_reaches baseFound reaches, walked]

theorem range_of_chain (baseFound : repository.revision base = .ok first)
    (tipFound : repository.revision tip = .ok last) (reaches : repository.Reaches last.hash first.hash)
    (walked : repository.chain? first.hash last.hash = some commits) :
    repository.range base tip =
      .ok { base := first.hash, tip := last.hash, commits := commits.map StoredCommit.metadata } := by
  simp [range, baseFound, tipFound, isReachable_of_reaches baseFound reaches, walked]

/-- The three answers to two revisions that are commits, each with what it says about
the parents in the repository. -/
inductive RangeAnswer (repository : Repository) (base tip : Text) (first last : StoredCommit) :
    Except RepositoryError CommitRange → Prop where
  | notAncestor (apart : ¬ repository.Reaches last.hash first.hash) :
      RangeAnswer repository base tip first last (.error (.notAncestor base tip))
  | notOnFirstParentChain (reaches : repository.Reaches last.hash first.hash)
      (off : ¬ OnFirstParentChain repository last first) :
      RangeAnswer repository base tip first last (.error (.notOnFirstParentChain base tip))
  | found {range : CommitRange} (reaches : repository.Reaches last.hash first.hash)
      (on : OnFirstParentChain repository last first) (exact : FirstParentRange repository first last range) :
      RangeAnswer repository base tip first last (.ok range)

theorem range_answer (acyclic : repository.Acyclic) (baseFound : repository.revision base = .ok first)
    (tipFound : repository.revision tip = .ok last) :
    RangeAnswer repository base tip first last (repository.range base tip) := by
  have baseStored := revision_stored baseFound
  have tipStored := revision_stored tipFound
  by_cases reaches : repository.Reaches last.hash first.hash
  · cases walked : repository.chain? first.hash last.hash with
    | none =>
        rw [range_of_no_chain baseFound tipFound reaches walked]
        apply RangeAnswer.notOnFirstParentChain reaches
        rw [onFirstParentChain_iff baseStored tipStored]
        rintro ⟨commits, chain⟩
        rw [(chain?_eq_some_iff acyclic).2 chain] at walked
        contradiction
    | some commits =>
        rw [range_of_chain baseFound tipFound reaches walked]
        have chain := (chain?_eq_some_iff acyclic).1 walked
        exact .found reaches ((onFirstParentChain_iff baseStored tipStored).2 ⟨commits, chain⟩)
          (firstParentRange_of_chain acyclic baseStored tipStored chain)
  · rw [range_of_not_reaches baseFound tipFound reaches]
    exact .notAncestor reaches

theorem exists_firstParentRange (acyclic : repository.Acyclic)
    {range : CommitRange}
    (found : repository.range base tip = .ok range) :
    ∃ first last, FirstParentRange repository first last range := by
  cases baseFound : repository.revision base with
  | error error => simp [Repository.range, baseFound] at found
  | ok first =>
      cases tipFound : repository.revision tip with
      | error error => simp [Repository.range, baseFound, tipFound] at found
      | ok last =>
          have answer := range_answer acyclic baseFound tipFound
          rw [found] at answer
          cases answer with
          | found _ _ exact => exact ⟨first, last, exact⟩

/-- A range is found exactly if its base is on the chain of first parents of its tip,
and is then that chain. Of the two refusals, the one is for a base that no parents lead
to, and the other for one that is missed along first parents. The walk along these is
never longer than the list of commits. -/
theorem range_exact (acyclic : repository.Acyclic) (baseFound : repository.revision base = .ok first)
    (tipFound : repository.revision tip = .ok last) :
    (∀ count commit, repository.firstParentsBack? count last = some commit →
      count < repository.commits.length) ∧
    ((∃ range, repository.range base tip = .ok range) ↔ OnFirstParentChain repository last first) ∧
    (repository.range base tip = .error (.notAncestor base tip) ↔
      ¬ repository.Reaches last.hash first.hash) ∧
    (repository.range base tip = .error (.notOnFirstParentChain base tip) ↔
      repository.Reaches last.hash first.hash ∧ ¬ OnFirstParentChain repository last first) ∧
    ∀ range, repository.range base tip = .ok range → FirstParentRange repository first last range := by
  have answer := range_answer acyclic baseFound tipFound
  refine ⟨?_, ?_⟩
  · intro count commit leads
    obtain ⟨commits, rfl, chain⟩ := FirstParentChain.of_firstParentsBack? (revision_stored tipFound) leads
    exact chain.length_lt acyclic (firstParentsBack?_stored (revision_stored tipFound) leads)
  · generalize repository.range base tip = result at answer
    cases answer with
    | notAncestor apart =>
        have off : ¬ OnFirstParentChain repository last first :=
          fun on => apart (reaches_of_onFirstParentChain (revision_stored tipFound) on)
        simp [apart, off]
    | notOnFirstParentChain reaches off => simp [reaches, off]
    | found reaches on exact => simpa [reaches, on] using exact

/-- A commit with a hash of one repeated digit. -/
def plainCommit (digit : Char) (parents : List Char) : StoredCommit where
  hash := List.replicate hashLength digit
  parents := parents.map (List.replicate hashLength)
  message := Utf8.encode "Change".toList
  author := Utf8.encode "Author".toList
  email := []
  time := 0
  files := []

/-- Two commits after a common one, and a merge of them. -/
def merged : Repository where
  commits := [plainCommit 'a' [], plainCommit 'b' ['a'], plainCommit 'c' ['a'], plainCommit 'd' ['b', 'c']]
  references := [{
    name := "refs/heads/main".toList, target := List.replicate hashLength 'd', annotated := false }]
  head := some (.reference "refs/heads/main".toList)

theorem merged_acyclic : merged.Acyclic :=
  acyclic_of_rank (fun hash => merged.hashes.idxOf hash) (by decide +kernel)

theorem range_exact_of_merge :
    merged.Acyclic ∧ merged.revision "HEAD~2".toList = .ok (plainCommit 'a' []) ∧
      merged.revision "main".toList = .ok (plainCommit 'd' ['b', 'c']) ∧
      ∃ range, merged.range "HEAD~2".toList "main".toList = .ok range ∧
        FirstParentRange merged (plainCommit 'a' []) (plainCommit 'd' ['b', 'c']) range := by
  have baseFound : merged.revision "HEAD~2".toList = .ok (plainCommit 'a' []) := by decide +kernel
  have tipFound : merged.revision "main".toList = .ok (plainCommit 'd' ['b', 'c']) := by decide +kernel
  have twoBack : merged.firstParentsBack? 2 (plainCommit 'd' ['b', 'c']) = some (plainCommit 'a' []) := by
    decide +kernel
  obtain ⟨_, onChain, _, _, exact⟩ := range_exact merged_acyclic baseFound tipFound
  obtain ⟨range, found⟩ := onChain.2 ⟨2, twoBack⟩
  exact ⟨merged_acyclic, baseFound, tipFound, range, found, exact range found⟩

end Repository

end CuratedHistory
