import CuratedHistory.Session.Source
import CuratedHistory.Proofs.History.Message
import CuratedHistory.Proofs.Plan.DefaultPlan
import CuratedHistory.Proofs.Repository.Hashes
import CuratedHistory.Proofs.Repository.Range

namespace CuratedHistory

/-! The default plan of a range, read with the hashes of the whole repository. -/

/-- One pick for each commit of a range, on a line of its own. -/
def CommitRange.picks (range : CommitRange) : List Record :=
  range.commits.mapIdx fun index commit => {
    line := index + 1, action := .pick, commit := commit.hash, reason := none
    sectionLabel := none, message := Text.nonBlank? commit.subject }

theorem CommitRange.picks_eq_pickRecords (range : CommitRange) :
    range.picks = pickRecords (range.commits.map fun commit => (commit.hash, commit.subject)) := by
  refine List.ext_getElem? fun index => ?_
  simp [CommitRange.picks, pickRecords, Function.comp_def]

namespace Repository

variable {repository : Repository} {base tip : Text} {first last : StoredCommit}
  {range : CommitRange}

theorem listed_of_firstParentRange (named : repository.FullyNamed)
    (exact : FirstParentRange repository first last range) :
    Listed repository.resolver (range.commits.map fun commit => (commit.hash, commit.subject)) := by
  have each : ∀ commit ∈ range.commits, isFullHash commit.hash = true ∧
      Text.lower commit.hash = commit.hash ∧ repository.resolver commit.hash = .ok commit.hash := by
    intro commit member
    obtain ⟨stored, found, _⟩ := exact.stored commit member
    obtain ⟨full, small⟩ := named.of_find? found
    exact ⟨full, small, resolver_eq_ok named found⟩
  constructor
  case full => exact List.forall_mem_map.mpr fun commit member => (each commit member).1
  case lower => exact List.forall_mem_map.mpr fun commit member => (each commit member).2.1
  case resolved => exact List.forall_mem_map.mpr fun commit member => (each commit member).2.2
  case oneLine => exact List.forall_mem_map.mpr fun commit _ => commit.newline_notMem_subject
  case distinct =>
    rw [List.map_map]
    exact exact.distinct

/-- The default plan of every range that is found is accepted. It picks each commit of the
range once, in order, and its blocks show each on its own. -/
theorem parsePlan_defaultPlan (acyclic : repository.Acyclic) (named : repository.FullyNamed)
    (found : repository.range base tip = .ok range) :
    repository.parsePlan range range.defaultPlan = .ok range.picks ∧
      compile range.picks = range.picks.map .single := by
  obtain ⟨first, last, exact⟩ := exists_firstParentRange acyclic found
  have parsed := parsePlan_of_listed (listed_of_firstParentRange named exact)
  rw [range.picks_eq_pickRecords]
  refine ⟨?_, compile_of_picks pickRecords_pick⟩
  rw [List.map_map] at parsed
  exact parsed

/-- A commit with the signs of a plan in its subject. -/
def signedTitle : StoredCommit :=
  { plainCommit 'b' ['a'] with message := Utf8.encode "100% \\# # done \r\nBody".toList }

/-- A commit with nothing but a blank in its subject. -/
def blankTitle : StoredCommit :=
  { plainCommit 'c' ['b'] with message := Utf8.encode "\u3000\r\nBody".toList }

def oddlyTitled : Repository where
  commits := [plainCommit 'a' [], signedTitle, blankTitle]
  references := []
  head := some (.commit (List.replicate hashLength 'c'))

def oddlyTitledRange : CommitRange where
  base := List.replicate hashLength 'a'
  tip := List.replicate hashLength 'c'
  commits := [signedTitle, blankTitle].map StoredCommit.metadata

def oddlyTitledPicks : List Record := [
  { line := 1, action := .pick, commit := List.replicate hashLength 'b', reason := none
    sectionLabel := none, message := some "100% \\# # done".toList },
  { line := 2, action := .pick, commit := List.replicate hashLength 'c', reason := none
    sectionLabel := none, message := none }]

-- Signs in a title are written as they are, and a blank title leaves no message.
example : (oddlyTitledRange.commits.map fun commit => pickLine (commit.hash.take 7) commit.subject) =
    ["pick bbbbbbb # 100% \\# # done", "pick ccccccc"].map String.toList := by
  decide +kernel

theorem oddlyTitled_acyclic : oddlyTitled.Acyclic :=
  acyclic_of_rank (fun hash => oddlyTitled.hashes.idxOf hash) (by decide +kernel)

theorem oddlyTitled_range :
    oddlyTitled.range "HEAD~2".toList "HEAD".toList = .ok oddlyTitledRange := by
  have baseFound : oddlyTitled.revision "HEAD~2".toList = .ok (plainCommit 'a' []) := by decide +kernel
  have tipFound : oddlyTitled.revision "HEAD".toList = .ok blankTitle := by decide +kernel
  have older : FirstParentChain oddlyTitled (plainCommit 'a' []).hash signedTitle.hash ([] ++ [signedTitle]) :=
    .step (by decide +kernel) rfl .arrived
  have chain : FirstParentChain oddlyTitled (plainCommit 'a' []).hash blankTitle.hash
      ([] ++ [signedTitle] ++ [blankTitle]) :=
    .step (by decide +kernel) rfl older
  exact range_of_chain baseFound tipFound chain.reaches ((chain?_eq_some_iff oddlyTitled_acyclic).2 chain)

theorem parsePlan_defaultPlan_oddlyTitled :
    oddlyTitled.Acyclic ∧ oddlyTitled.FullyNamed ∧
      oddlyTitled.range "HEAD~2".toList "HEAD".toList = .ok oddlyTitledRange ∧
      oddlyTitled.parsePlan oddlyTitledRange oddlyTitledRange.defaultPlan = .ok oddlyTitledPicks ∧
      compile oddlyTitledPicks = oddlyTitledPicks.map .single := by
  have named : oddlyTitled.FullyNamed := by
    unfold FullyNamed
    decide +kernel
  have picks : oddlyTitledRange.picks = oddlyTitledPicks := by decide +kernel
  obtain ⟨parsed, blocks⟩ := parsePlan_defaultPlan oddlyTitled_acyclic named oddlyTitled_range
  rw [picks] at parsed blocks
  exact ⟨oddlyTitled_acyclic, named, oddlyTitled_range, parsed, blocks⟩

end Repository

end CuratedHistory
