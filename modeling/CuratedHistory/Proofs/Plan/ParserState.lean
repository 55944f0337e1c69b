import CuratedHistory.Proofs.Plan.Parser

namespace CuratedHistory

/-! Whatever lines a parser is fed, in whatever order and with whatever numbers, what
it threads from line to line agrees with the records that it has accepted. -/

/-- What holds of every accepted record by itself. -/
structure Record.WellFormed (range : PlanRange) (record : Record) : Prop where
  member : record.commit ∈ range.members
  lowerCase : Text.lower record.commit = record.commit
  reasonOfDrop : record.reason ≠ none → record.action = .drop
  sectionOfBundle : record.sectionLabel ≠ none ↔ record.action = .bundle
  reason : ∀ reason, record.reason = some reason → reason.Trimmed
  sectionLabel : ∀ label, record.sectionLabel = some label → label.Trimmed
  message : ∀ message, record.message = some message → message.Trimmed

/-- The first record stands before the second one along the range. -/
def Record.Before (range : PlanRange) (earlier later : Record) : Prop :=
  ∃ first second, range.position? earlier.commit = some first ∧
    range.position? later.commit = some second ∧ first < second

namespace PlanParser

variable {range : PlanRange} {parser : PlanParser} {line position : Nat} {raw : Text}
  {directive : Directive} {record : Record}

/-- The parser after a line, whether the line is accepted or not. -/
def afterLine (parser : PlanParser) (call : Nat × Text) : PlanParser :=
  (parser.processLine call.1 call.2).2

/-- The agreement of the threaded context with the records. -/
structure Consistent (range : PlanRange) (parser : PlanParser) : Prop where
  range_eq : parser.range = range
  wellFormed : ∀ record ∈ parser.records, record.WellFormed range
  ordered : parser.records.Pairwise (Record.Before range)
  distinct : (parser.records.map Record.commit).Nodup
  seen : ∀ commit, commit ∈ parser.seen ↔ commit ∈ parser.records.map Record.commit
  last_none : parser.last = none ↔ parser.records = []
  last_some : ∀ position commit, parser.last = some (position, commit) →
    ∃ record, parser.records.getLast? = some record ∧ record.commit = commit ∧
      range.position? commit = some position
  previousAction : parser.previousAction = parser.records.getLast?.map Record.action
  sectionLabel : parser.sectionLabel = parser.records.getLast?.bind Record.sectionLabel

theorem start_consistent (range : PlanRange) (resolver : Resolver) :
    (start range resolver).Consistent range where
  range_eq := rfl
  wellFormed := by simp [start]
  ordered := .nil
  distinct := .nil
  seen := by simp [start]
  last_none := by simp [start]
  last_some := by simp [start]
  previousAction := rfl
  sectionLabel := rfl

/-- An inherited section is the one of the last record. -/
theorem Consistent.inherited?_trimmed {label : Text} (consistent : parser.Consistent range)
    (inherited : parser.inherited? = some label) : label.Trimmed := by
  unfold inherited? at inherited
  split at inherited
  · rw [consistent.sectionLabel] at inherited
    obtain ⟨last, isLast, hasLabel⟩ := Option.bind_eq_some_iff.mp inherited
    exact (consistent.wellFormed last (List.mem_of_getLast? isLast)).sectionLabel label hasLabel
  · contradiction

theorem Accepted.wellFormed (accepted : parser.Accepted line directive position record)
    (consistent : parser.Consistent range) (read : Directive.ofLine raw = .ok (some directive)) :
    record.WellFormed range where
  member := by
    have place := accepted.place
    rw [consistent.range_eq] at place
    exact PlanRange.mem_of_position? place
  lowerCase := by
    obtain ⟨full, _, same⟩ := Directive.commit?_eq_some_iff.mp accepted.commit
    rw [← same, Text.lower_lower]
  reasonOfDrop := by
    intro hasReason
    rw [accepted.reason] at hasReason
    rw [accepted.action]
    by_contra notDrop
    exact hasReason (if_neg notDrop)
  sectionOfBundle := by
    rw [accepted.action]
    constructor
    · intro hasSection
      rw [accepted.sectionLabel] at hasSection
      by_contra notBundle
      exact hasSection (if_neg notBundle)
    · exact accepted.labelled
  reason := by
    intro reason isReason
    rw [accepted.reason] at isReason
    split at isReason
    · exact Directive.ownLabel?_trimmed read isReason
    · contradiction
  sectionLabel := by
    intro label isLabel
    rw [accepted.sectionLabel] at isLabel
    split at isLabel
    · rcases Option.or_eq_some_iff.mp isLabel with own | ⟨_, inherited⟩
      · exact Directive.ownLabel?_trimmed read own
      · exact consistent.inherited?_trimmed inherited
    · contradiction
  message := by
    intro message isMessage
    rw [accepted.message] at isMessage
    exact Directive.message_trimmed read isMessage

/-- The last record bounds all others, so that it is enough to come after it. -/
theorem Accepted.after_all (accepted : parser.Accepted line directive position record)
    (consistent : parser.Consistent range) :
    ∀ earlier ∈ parser.records, earlier.Before range record := by
  intro earlier member
  have place := accepted.place
  rw [consistent.range_eq] at place
  obtain ⟨first, isFirst⟩ :=
    PlanRange.mem_iff_position?.mp (consistent.wellFormed earlier member).member
  refine ⟨first, position, isFirst, place, ?_⟩
  cases last : parser.last with
  | none =>
      rw [consistent.last_none.mp last] at member
      contradiction
  | some lastPlace =>
      obtain ⟨lastPosition, previous⟩ := lastPlace
      have bound := accepted.later lastPosition previous last
      obtain ⟨lastRecord, isLast, same, found⟩ := consistent.last_some lastPosition previous last
      obtain ⟨before, split⟩ := List.getLast?_eq_some_iff.mp isLast
      rw [split, List.mem_append, List.mem_singleton] at member
      rcases member with inside | isRecord
      · have ordered := consistent.ordered
        rw [split, List.pairwise_append] at ordered
        obtain ⟨_, _, isEarlier, isLater, less⟩ :=
          ordered.2.2 earlier inside lastRecord (List.mem_singleton_self _)
        rw [isFirst, Option.some.injEq] at isEarlier
        rw [same, found, Option.some.injEq] at isLater
        omega
      · subst isRecord
        rw [same, found, Option.some.injEq] at isFirst
        omega

theorem Accepted.push_consistent (accepted : parser.Accepted line directive position record)
    (consistent : parser.Consistent range) (read : Directive.ofLine raw = .ok (some directive)) :
    (parser.push position record).Consistent range where
  range_eq := consistent.range_eq
  wellFormed := by
    simp only [push]
    rw [List.forall_mem_append, List.forall_mem_singleton]
    exact ⟨consistent.wellFormed, accepted.wellFormed consistent read⟩
  ordered := by
    refine List.pairwise_append.mpr ⟨consistent.ordered, List.pairwise_singleton _ _, ?_⟩
    intro earlier member later added
    rw [List.mem_singleton.mp added]
    exact accepted.after_all consistent earlier member
  distinct := by
    have fresh : record.commit ∉ parser.records.map Record.commit :=
      fun member => accepted.fresh ((consistent.seen record.commit).mpr member)
    simp only [push, List.map_append, List.map_cons, List.map_nil]
    exact List.nodup_append.mpr ⟨consistent.distinct, List.nodup_singleton _, by
      rintro commit member other isOther rfl
      rw [List.mem_singleton.mp isOther] at member
      exact fresh member⟩
  seen := by
    intro commit
    simp only [push, List.map_append, List.map_cons, List.map_nil, List.mem_cons,
      List.mem_append, List.not_mem_nil, or_false, consistent.seen commit]
    exact or_comm
  last_none := by simp [push]
  last_some := by
    intro place commit isLast
    simp only [push, Option.some.injEq, Prod.mk.injEq] at isLast
    obtain ⟨rfl, rfl⟩ := isLast
    have found := accepted.place
    rw [consistent.range_eq] at found
    exact ⟨record, List.getLast?_concat, rfl, found⟩
  previousAction := by simp [push]
  sectionLabel := by simp [push]

theorem Consistent.afterLine (consistent : parser.Consistent range) (call : Nat × Text) :
    (parser.afterLine call).Consistent range := by
  unfold PlanParser.afterLine
  rcases parser.processLine_cases call.1 call.2 with same | ⟨directive, position, record, read,
    accepted, next⟩
  · rwa [same]
  · rw [next]
    exact accepted.push_consistent consistent read

theorem Consistent.foldl_afterLine (consistent : parser.Consistent range)
    (calls : List (Nat × Text)) : (calls.foldl PlanParser.afterLine parser).Consistent range := by
  induction calls generalizing parser with
  | nil => exact consistent
  | cons call rest ih => exact ih (consistent.afterLine call)

/-- After any calls, refused ones among them, the context agrees with the records. -/
theorem reachable_consistent (range : PlanRange) (resolver : Resolver)
    (calls : List (Nat × Text)) :
    (calls.foldl PlanParser.afterLine (start range resolver)).Consistent range :=
  (start_consistent range resolver).foldl_afterLine calls

end PlanParser

end CuratedHistory
