import CuratedHistory.Proofs.Plan.Grouping

namespace CuratedHistory

/-! What a summary counts after the records have been grouped could be counted on the plan as
well: the records of each action, and the places at which a run starts. -/

/-- A run of records with the action starts at this place: the record here has the action, and
there is none before it or one with another action. -/
def StartsRun (action : Action) (records : List Record) (place : Nat) : Prop :=
  records[place]?.map Record.action = some action ∧
    (place = 0 ∨ records[place - 1]?.map Record.action ≠ some action)

instance (action : Action) (records : List Record) : DecidablePred (StartsRun action records) :=
  fun _ => inferInstanceAs (Decidable (_ ∧ _))

/-- How many runs of records with the action there are. -/
def runStarts (action : Action) (records : List Record) : Nat :=
  (List.range records.length).countP fun place => StartsRun action records place

namespace Summary

/-- The counts of a plan that has not been grouped. -/
def ofRecords (records : List Record) : Summary where
  singles := records.countP (·.action = .pick)
  dropped := records.countP (·.action = .drop)
  squashRuns := runStarts .squash records
  squashedCommits := records.countP (·.action = .squash)
  bundleRuns := runStarts .bundle records
  bundledCommits := records.countP (·.action = .bundle)

end Summary

variable {action : Action} {records : List Record} {record : Record} {place : Nat}

/-- Whether a run starts at a place is settled by the records up to there. -/
theorem startsRun_append (inside : place < records.length) (later : List Record) :
    StartsRun action (records ++ later) place ↔ StartsRun action records place := by
  rw [StartsRun, StartsRun, List.getElem?_append_left inside,
    List.getElem?_append_left (show place - 1 < records.length by omega)]

theorem startsRun_last :
    StartsRun action (records ++ [record]) records.length ↔
      record.action = action ∧ records.getLast?.map Record.action ≠ some action := by
  rw [StartsRun, List.getElem?_concat_length, Option.map_some, Option.some.injEq]
  cases records using List.reverseRecOn with
  | nil => simp
  | append_singleton earlier last =>
      have before : (earlier ++ [last]).length - 1 = earlier.length := by simp
      rw [before, List.append_assoc, List.getElem?_append_right (Nat.le_refl _), Nat.sub_self]
      simp

/-- One more record starts a run unless the last one has the same action. -/
theorem runStarts_concat :
    runStarts action (records ++ [record]) = runStarts action records +
      if record.action = action ∧ records.getLast?.map Record.action ≠ some action then 1 else 0 := by
  have earlier : (List.range records.length).countP (fun place =>
      StartsRun action (records ++ [record]) place) = runStarts action records := by
    refine List.countP_congr fun place member => ?_
    rw [decide_eq_true_iff, decide_eq_true_iff]
    exact startsRun_append (List.mem_range.mp member) [record]
  rw [runStarts, List.length_append, List.length_singleton, List.range_succ, List.countP_append,
    earlier, List.countP_singleton]
  simp only [startsRun_last, decide_eq_true_eq]

namespace Summary

theorem ofBlocks_concat (blocks : List Block) (block : Block) :
    ofBlocks (blocks ++ [block]) = (ofBlocks blocks).add block := by
  rw [ofBlocks, List.foldl_append]
  rfl

/-- A record that does not go on a run counts as a block of its own. -/
theorem ofRecords_start (apart : record.action = .squash ∨ record.action = .bundle →
      records.getLast?.map Record.action ≠ some record.action) :
    ofRecords (records ++ [record]) = (ofRecords records).add (Grouping.opener record) := by
  cases action : record.action with
  | pick => simp [ofRecords, runStarts_concat, Grouping.opener, add, action]
  | drop => simp [ofRecords, runStarts_concat, Grouping.opener, add, action]
  | squash =>
      have starts := apart (.inl action)
      rw [action] at starts
      simp [ofRecords, runStarts_concat, Grouping.opener, add, action, starts]
  | bundle =>
      have starts := apart (.inr action)
      rw [action] at starts
      simp [ofRecords, runStarts_concat, Grouping.opener, add, action, starts]

/-- A record that goes on a run counts as one more commit in it. -/
theorem ofRecords_push {summary : Summary} {run : OpenRun}
    (counted : summary.add run.close = ofRecords records)
    (last : records.getLast?.map Record.action = some run.action) (same : run.action = record.action) :
    summary.add (run.push record).close = ofRecords (records ++ [record]) := by
  cases run with
  | squash squashed =>
      have isSquash : record.action = .squash := same.symm
      have before : records.getLast?.map Record.action = some .squash := last
      simp only [add, OpenRun.close, OpenRun.push, ofRecords, mk.injEq] at counted ⊢
      simp [runStarts_concat, isSquash, before]
      omega
  | bundle sectionLabel bundled =>
      have isBundle : record.action = .bundle := same.symm
      have before : records.getLast?.map Record.action = some .bundle := last
      simp only [add, OpenRun.close, OpenRun.push, ofRecords, mk.injEq] at counted ⊢
      simp [runStarts_concat, isBundle, before]
      omega

end Summary

namespace Grouping

variable {grouping : Grouping} {read : List Record}

/-- What the loop keeps: the complete blocks and the open run count as much as the records that
have been read, and a run is open exactly if the last record can be gone on with. -/
structure Counts (grouping : Grouping) (read : List Record) : Prop where
  summary : Summary.ofBlocks grouping.closed = Summary.ofRecords read
  goesOn : ∀ run, grouping.openRun = some run → read.getLast?.map Record.action = some run.action
  isOpen : ∀ last, read.getLast? = some last → last.action = .squash ∨ last.action = .bundle →
    grouping.openRun.map OpenRun.action = some last.action

theorem Counts.empty : Counts .empty [] where
  summary := rfl
  goesOn := by simp [Grouping.empty]
  isOpen := by simp

theorem Counts.push {run : OpenRun} (counts : grouping.Counts read)
    (isOpen : grouping.openRun = some run) (same : run.action = record.action) :
    Counts { grouping with openRun := some (run.push record) } (read ++ [record]) where
  summary := by
    have counted := counts.summary
    rw [closed_of_openRun isOpen, Summary.ofBlocks_concat] at counted
    rw [closed_of_openRun rfl, Summary.ofBlocks_concat]
    exact Summary.ofRecords_push counted (counts.goesOn run isOpen) same
  goesOn := by simp [same]
  isOpen := by simp [same]

theorem Counts.start (counts : grouping.Counts read)
    (other : ∀ run, grouping.openRun = some run → run.action ≠ record.action) :
    (grouping.start record).Counts (read ++ [record]) where
  summary := by
    rw [start_closed, Summary.ofBlocks_concat, counts.summary, Summary.ofRecords_start]
    intro isRun before
    obtain ⟨last, isLast, same⟩ := Option.map_eq_some_iff.mp before
    rw [← same] at isRun
    obtain ⟨run, running, sameToo⟩ := Option.map_eq_some_iff.mp (counts.isOpen last isLast isRun)
    exact other run running (sameToo.trans same)
  goesOn := by
    cases action : record.action <;> simp [Grouping.start, action, OpenRun.action]
  isOpen := by
    cases action : record.action <;> simp [Grouping.start, action, OpenRun.action]

theorem Counts.add (counts : grouping.Counts read) (record : Record) :
    (grouping.add record).Counts (read ++ [record]) := by
  cases isOpen : grouping.openRun with
  | none =>
      rw [add_eq_start (by simp [isOpen])]
      exact counts.start (by simp [isOpen])
  | some run =>
      by_cases same : run.action = record.action
      · simp only [Grouping.add, isOpen, if_pos same]
        exact counts.push isOpen same
      · have other : ∀ candidate, grouping.openRun = some candidate →
            candidate.action ≠ record.action := by
          intro candidate isCandidate
          rw [isOpen, Option.some.injEq] at isCandidate
          rwa [← isCandidate]
        rw [add_eq_start other]
        exact counts.start other

theorem Counts.foldl (counts : grouping.Counts read) (rest : List Record) :
    (rest.foldl Grouping.add grouping).Counts (read ++ rest) := by
  induction rest generalizing grouping read with
  | nil => simpa using counts
  | cons record rest ih =>
      have next := ih (counts.add record)
      rwa [List.append_assoc, List.singleton_append] at next

end Grouping

/-- The summary of the blocks of a plan counts the records of each action and the runs of
squashed and of bundled records as they stand in the plan, and all records together. -/
theorem summary_counts_plan (records : List Record) :
    Summary.ofBlocks (compile records) = Summary.ofRecords records ∧
      (Summary.ofBlocks (compile records)).totalRecords = records.length := by
  have counts := Grouping.Counts.empty.foldl records
  rw [List.nil_append] at counts
  refine ⟨counts.summary, ?_⟩
  rw [Summary.totalRecords_ofBlocks, (compile_groups records).covers]

end CuratedHistory
