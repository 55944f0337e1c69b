import CuratedHistory.Proofs.Plan.Index
import CuratedHistory.Proofs.Session.Telescoping

namespace CuratedHistory

/-! The places of commits along a range, as plans and as the history count them. -/

/-- A plan for the range has its commits in the same places as the range itself. -/
structure CommitRange.SamePlaces (range : CommitRange) : Prop where
  length_eq : range.planRange.length = range.length
  get_eq : ∀ place, range.planRange.get? place = range.hashes[place]?
  position_eq : ∀ hash, range.planRange.position? hash = range.position? hash

theorem CommitRange.samePlaces {range : CommitRange} (members : range.planRange.members = range.hashes) :
    range.SamePlaces where
  length_eq := by rw [PlanRange.length, members, hashes, List.length_map, length]
  get_eq place := by rw [PlanRange.get?, members]
  position_eq hash := by
    rw [PlanRange.position?, members, hashes, List.findIdx?_map, position?]
    rfl

/-- A range indexes the hashes that it is made from, whatever they are, and resolves beginnings
of them exactly. Made from the commits between two revisions, it counts them as these stand in
the history. -/
theorem planRange_indexes :
    (∀ hashes : List Text,
      (PlanRange.ofHashes hashes).Indexes hashes ∧ (PlanRange.ofHashes hashes).ResolvesExactly) ∧
      ∀ (repository : Repository) (base tip : Text) (range : CommitRange), repository.Acyclic →
        repository.FullyNamed → repository.range base tip = .ok range → range.SamePlaces := by
  constructor
  · intro hashes
    have indexes := PlanRange.ofHashes_indexes hashes
    exact ⟨indexes, PlanRange.resolvesExactly indexes.distinct⟩
  · intro repository base tip range acyclic named found
    obtain ⟨first, last, exact⟩ := Repository.exists_firstParentRange acyclic found
    exact CommitRange.samePlaces (Repository.members_planRange named exact)

/-- Hashes in both cases, one of which comes twice. -/
def repeatedHashes : List Text :=
  ["ABC0", "abd0", "abc0", "E0"].map String.toList

open Repository in
theorem planRange_indexes_repeatedHashes :
    (PlanRange.ofHashes repeatedHashes).members = ["abc0", "abd0", "e0"].map String.toList ∧
      (PlanRange.ofHashes repeatedHashes).Indexes repeatedHashes ∧
      (PlanRange.ofHashes repeatedHashes).ResolvesExactly ∧
      (PlanRange.ofHashes repeatedHashes).resolver "ab".toList = .error .ambiguous ∧
      (PlanRange.ofHashes repeatedHashes).resolver "abd".toList = .ok "abd0".toList ∧
      continued.Acyclic ∧ continued.FullyNamed ∧
      continued.range "HEAD~4".toList "HEAD".toList = .ok continuedRange ∧
      continuedRange.SamePlaces ∧ continuedRange.length = 4 := by
  have named : continued.FullyNamed := by
    unfold FullyNamed
    decide +kernel
  obtain ⟨indexes, exactly⟩ := planRange_indexes.1 repeatedHashes
  have placed := planRange_indexes.2 _ _ _ _ continued_acyclic named continued_range
  exact ⟨by decide +kernel, indexes, exactly, by decide +kernel, by decide +kernel, continued_acyclic,
    named, continued_range, placed, rfl⟩

end CuratedHistory
