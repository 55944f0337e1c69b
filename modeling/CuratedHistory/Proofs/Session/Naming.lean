import CuratedHistory.Proofs.Report.Rendering
import CuratedHistory.Proofs.Repository.Hashes
import CuratedHistory.Proofs.Repository.Range
import CuratedHistory.Proofs.Session.Editing
import CuratedHistory.Session.Source

namespace CuratedHistory

/-! Names of commits, from a range to the records of a plan for it. In a repository of full
hashes all of them are hexadecimal, wherever the plan comes from. -/

/-- A walk along first parents passes none but the commits that it was given. -/
theorem mem_of_chainTo? {base hash : Text} {remaining commits : List StoredCommit}
    (walked : chainTo? base remaining hash = some commits) : ∀ commit ∈ commits, commit ∈ remaining := by
  induction length : remaining.length using Nat.strong_induction_on generalizing remaining hash commits with
  | _ count ih =>
      rcases chainTo?_eq_some_iff.1 walked with ⟨rfl, rfl⟩ | ⟨_, commit, parent, before, found, _, rest, rfl⟩
      · exact List.forall_mem_nil _
      · have member := List.mem_of_find?_eq_some found
        have shorter : (remaining.erase commit).length < count := by
          rw [List.length_erase_of_mem member, ← length]
          exact Nat.sub_lt (List.length_pos_of_mem member) Nat.one_pos
        rw [List.forall_mem_append, List.forall_mem_singleton]
        exact ⟨fun earlier inside => List.mem_of_mem_erase (ih _ shorter rest rfl earlier inside), member⟩

namespace Repository

variable {repository : Repository} {range : CommitRange} {base tip text hash : Text}
  {records : List Record} {record : Record}

/-- Both ends of a range and all that is between them are stored. -/
theorem range_stored (found : repository.range base tip = .ok range) :
    range.base ∈ repository.hashes ∧ range.tip ∈ repository.hashes ∧
      ∀ hash ∈ range.hashes, hash ∈ repository.hashes := by
  cases baseFound : repository.revision base with
  | error error => simp [Repository.range, baseFound] at found
  | ok first =>
      cases tipFound : repository.revision tip with
      | error error => simp [Repository.range, baseFound, tipFound] at found
      | ok last =>
          cases walked : repository.chain? first.hash last.hash with
          | none =>
              simp only [Repository.range, baseFound, tipFound, walked] at found
              split at found <;> contradiction
          | some commits =>
              simp only [Repository.range, baseFound, tipFound, walked] at found
              split at found
              · contradiction
              · rw [← Except.ok.inj found]
                refine ⟨hash_mem_of_find? (revision_stored baseFound),
                  hash_mem_of_find? (revision_stored tipFound), ?_⟩
                rw [CommitRange.hashes, List.map_map, List.forall_mem_map]
                exact fun commit member => List.mem_map_of_mem (mem_of_chainTo? walked commit member)

theorem FullyNamed.full (named : repository.FullyNamed) (stored : hash ∈ repository.hashes) :
    isFullHash hash = true := by
  obtain ⟨commit, member, rfl⟩ := List.mem_map.mp stored
  exact (named commit member).1

theorem FullyNamed.hexadecimal (named : repository.FullyNamed) (stored : hash ∈ repository.hashes) :
    hash.Hexadecimal :=
  .of_isFullHash (named.full stored)

/-- Whatever is looked up in the repository goes by a hexadecimal hash. -/
theorem hexadecimal_of_history (named : repository.FullyNamed) (hash : Text) (commit : Commit)
    (known : repository.history.commit? hash = some commit) : commit.hash.Hexadecimal := by
  simp only [history] at known
  obtain ⟨stored, found, rfl⟩ := Option.map_eq_some_iff.mp known
  cases resolved : repository.revision hash with
  | error error => simp [resolved, Except.toOption] at found
  | ok other =>
      rw [resolved, Except.toOption, Option.some.injEq] at found
      subst found
      exact named.hexadecimal (hash_mem_of_find? (revision_stored resolved))

/-- The records of a plan that is accepted go by hexadecimal hashes. -/
theorem hexadecimal_of_plan (named : repository.FullyNamed) (found : repository.range base tip = .ok range)
    (accepted : repository.parsePlan range text = .ok records) :
    ∀ record ∈ records, record.Hexadecimal repository.history.commit? := by
  obtain ⟨parser, consistent, rfl⟩ := PlanParser.exists_consistent accepted
  have full : ∀ hash ∈ range.hashes, isFullHash hash = true :=
    fun hash inside => named.full ((range_stored found).2.2 hash inside)
  exact fun record member =>
    ⟨hexadecimal_of_member full (consistent.wellFormed record member).member,
      hexadecimal_of_history named record.commit⟩

end Repository

/-- A plan that is loaded is a text that was parsed, whatever it came from. -/
theorem PlanSource.exists_text_of_load {source : PlanSource} {repository : Repository} {range : CommitRange}
    {files : FileSystem} {inputs : PlanInputs} {records : List Record}
    (loaded : (source.load repository range files inputs).result = .ok records) :
    ∃ text, repository.parsePlan range text = .ok records := by
  have ofRead {read : Except SourceError Text}
      (parsed : (parseRead repository range read).result = .ok records) :
      ∃ text, repository.parsePlan range text = .ok records := by
    cases read with
    | error error => contradiction
    | ok text =>
        refine ⟨text, ?_⟩
        cases verdict : repository.parsePlan range text with
        | error error => simp [parseRead, verdict, Except.mapError] at parsed
        | ok others => simpa [parseRead, verdict, Except.mapError] using parsed
  cases source with
  | default => exact ofRead loaded
  | file path => exact ofRead loaded
  | standardInput => exact ofRead loaded
  | edit =>
      have accepted : (editPlan inputs.editor inputs.attempts (repository.parsePlan range)
          range.defaultPlan).result = .ok records := by
        cases verdict : (editPlan inputs.editor inputs.attempts (repository.parsePlan range)
            range.defaultPlan).result with
        | error error => simp [load, verdict, Except.mapError] at loaded
        | ok others => simpa [load, verdict, Except.mapError] using loaded
      obtain ⟨_, _, _, _, ends⟩ := editPlan_result_iff.mp accepted
      obtain ⟨text, _, parsed⟩ := Ends.ok_iff.mp ends
      exact ⟨text, parsed⟩

end CuratedHistory
