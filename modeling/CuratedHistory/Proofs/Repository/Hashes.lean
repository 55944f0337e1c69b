import CuratedHistory.Repository.Revision
import CuratedHistory.Proofs.Plan.Reading
import CuratedHistory.Proofs.Repository.Reachability

namespace CuratedHistory

/-! Full hashes, and what looking one up in a repository comes to. -/

/-- A text without the marks of steps is all name. -/
theorem Revision.nameAt_eq {text : Text} (plain : ∀ c ∈ text, c ≠ '@' ∧ c ≠ '^' ∧ c ≠ '~' ∧ c ≠ ':') :
    nameAt text = (text, []) := by
  induction text with
  | nil => rfl
  | cons c rest ih =>
      rw [List.forall_mem_cons] at plain
      rw [nameAt]
      · simp [plain.1, ih plain.2]
      · rintro _ rfl
        exact absurd rfl plain.1.1

namespace Repository

/-- Every commit has forty hexadecimal digits in lower case for a hash. -/
def FullyNamed (repository : Repository) : Prop :=
  ∀ commit ∈ repository.commits,
    isFullHash commit.hash = true ∧ Text.lower commit.hash = commit.hash

variable {repository : Repository} {hash : Text} {commit : StoredCommit}

theorem FullyNamed.of_find? (named : repository.FullyNamed) (found : repository.find? hash = some commit) :
    isFullHash hash = true ∧ Text.lower hash = hash := by
  rw [← find?_hash found]
  exact named commit (List.mem_of_find?_eq_some found)

theorem FullyNamed.digits (named : repository.FullyNamed) (found : repository.find? hash = some commit) :
    hash.length = hashLength ∧ ∀ c ∈ hash, isHexDigit c = true := by
  have full := (named.of_find? found).1
  rw [isFullHash, Bool.and_eq_true, beq_iff_eq] at full
  have digits := List.all_eq_true.mp full.2
  exact ⟨by rw [← byteLength_of_hex digits]; exact full.1, digits⟩

theorem exactHash?_of_find? (named : repository.FullyNamed) (found : repository.find? hash = some commit) :
    repository.exactHash? hash = some (.commit hash) := by
  obtain ⟨length, digits⟩ := named.digits found
  have something : hash ≠ [] := by
    rintro rfl
    contradiction
  have stored : repository.hashes.contains hash = true :=
    List.contains_iff_mem.mpr (hash_mem_of_find? found)
  have hex : isHex hash = true := by simpa [isHex, something] using digits
  rw [exactHash?, if_pos ⟨hex, length⟩, (named.of_find? found).2, exactObject?, if_pos stored]

/-- The full hash of a commit leads to that commit. -/
theorem resolver_eq_ok (named : repository.FullyNamed) (found : repository.find? hash = some commit) :
    repository.resolver hash = .ok hash := by
  obtain ⟨length, digits⟩ := named.digits found
  have bytes : Text.byteLength hash = hashLength := by rw [byteLength_of_hex digits, length]
  have resolved : repository.resolve hash = .ok hash := by
    simp only [resolve, bytes, if_true, exactHash?_of_find? named found]
  simp only [resolver, resolved]

/-- A full hash is also an expression for its commit: it has no step in it. -/
theorem revision_eq_ok (named : repository.FullyNamed) (found : repository.find? hash = some commit) :
    repository.revision hash = .ok commit := by
  obtain ⟨length, digits⟩ := named.digits found
  have plain : ∀ c ∈ hash, c ≠ '@' ∧ c ≠ '^' ∧ c ≠ '~' ∧ c ≠ ':' := by
    intro c member
    refine ⟨?_, ?_, ?_, ?_⟩ <;>
      · rintro rfl
        exact absurd (digits _ member) (by decide)
  have unbroken : '\x00' ∉ hash := fun member => absurd (digits _ member) (by decide)
  have expression : Revision.ofText hash = { start := .name hash, steps := [] } := by
    cases hash with
    | nil => contradiction
    | cons c rest =>
        rw [Revision.ofText, Revision.nameAt_eq plain]
        simp [Revision.stepsOf]
  have start : repository.startObject (.name hash) = .ok (.commit hash) := by
    simp [startObject, object, exactHash?_of_find? named found]
  have reached : ([].foldlM repository.step? (.commit hash)).bind repository.commitOf? = some commit := found
  simp only [revision, if_neg unbroken, expression, start, reached]

end Repository

end CuratedHistory
