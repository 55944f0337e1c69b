import CuratedHistory.Proofs.Plan.Acceptance

namespace CuratedHistory

/-! A plan is parsed if and only if its directives are acceptable together. The parser
sees them one after the other; `Follows` ties what it threads from line to line to all
that it has read. -/

namespace PlanParser

variable {range : PlanRange} {resolver : Resolver} {parser : PlanParser}
  {numbered : List (Nat × Directive)} {line position : Nat} {raw label : Text}
  {directive : Directive} {record : Record}

/-- The parser has read these directives, and no line that it had to refuse. -/
structure Follows (range : PlanRange) (resolver : Resolver) (parser : PlanParser)
    (numbered : List (Nat × Directive)) : Prop where
  consistent : parser.Consistent range
  resolver_eq : parser.resolver = resolver
  acceptable : Acceptable range resolver (numbered.map Prod.snd)
  matched : RecordsOf resolver numbered parser.records

theorem start_follows (range : PlanRange) (resolver : Resolver) :
    (start range resolver).Follows range resolver [] where
  consistent := start_consistent range resolver
  resolver_eq := rfl
  acceptable := .nil
  matched := .nil

/-- Bundles, and only they, pass a section on to the next line. -/
theorem Consistent.inherited?_eq (consistent : parser.Consistent range) :
    parser.inherited? = parser.sectionLabel ∧
      (parser.inherited? = none ↔ parser.previousAction ≠ some .bundle) := by
  unfold inherited?
  rw [consistent.previousAction, consistent.sectionLabel]
  cases isLast : parser.records.getLast? with
  | none => simp
  | some last =>
      have sectionOfBundle :=
        (consistent.wellFormed last (List.mem_of_getLast? isLast)).sectionOfBundle
      by_cases bundled : last.action = .bundle
      · simp [bundled, sectionOfBundle.mpr bundled]
      · have none : last.sectionLabel = none := by
          by_contra labelled
          exact bundled (sectionOfBundle.mp labelled)
        simp [bundled, none]

namespace Follows

theorem inherited?_eq_some_iff (follows : parser.Follows range resolver numbered) :
    parser.inherited? = some label ↔
      Directive.LabelInEffect (numbered.map Prod.snd) label := by
  rw [follows.consistent.inherited?_eq.1, follows.consistent.sectionLabel]
  cases isLast : parser.records.getLast? with
  | none =>
      rw [follows.matched.eq_nil_of_getLast? isLast]
      simp [Directive.labelInEffect_nil]
  | some last =>
      obtain ⟨_, _, _, described⟩ := follows.matched.getLast? isLast
      exact described.sectionLabel label

theorem previousAction_eq (follows : parser.Follows range resolver numbered) :
    parser.previousAction = (numbered.map Prod.snd).getLast?.map Directive.action := by
  rw [follows.consistent.previousAction, List.getLast?_map]
  cases isLast : parser.records.getLast? with
  | none =>
      rw [follows.matched.eq_nil_of_getLast? isLast]
      rfl
  | some last =>
      obtain ⟨_, _, found, described⟩ := follows.matched.getLast? isLast
      simp [found, described.action]

/-- No section is passed on exactly if a bundle would have to open a run. -/
theorem inherited?_eq_none_iff (follows : parser.Follows range resolver numbered) :
    parser.inherited? = none ↔
      ∀ previous ∈ (numbered.map Prod.snd).getLast?, previous.action ≠ .bundle := by
  rw [follows.consistent.inherited?_eq.2, follows.previousAction_eq]
  cases (numbered.map Prod.snd).getLast? <;> simp

/-- A directive that extends the ones read so far is accepted. -/
theorem exists_accepted (follows : parser.Follows range resolver numbered)
    (extended : Extends range resolver (numbered.map Prod.snd) directive) (line : Nat) :
    ∃ position record, parser.Accepted line directive position record := by
  obtain ⟨full, resolved, member⟩ := extended.selected
  obtain ⟨position, place⟩ := PlanRange.mem_iff_position?.mp member
  have named : directive.commit? resolver = some (Text.lower full) :=
    Directive.commit?_eq_some_iff.mpr ⟨full, resolved, rfl⟩
  have ahead : ∀ earlier ∈ parser.records, ∀ first,
      range.position? earlier.commit = some first → first < position := by
    intro earlier isRecord first isFirst
    obtain ⟨read, inside, same⟩ := follows.matched.exists_directive isRecord
    obtain ⟨_, _, isEarlier, isLater, less⟩ := extended.increasing read inside
    simp only [Directive.position?, same, named, Option.bind_some] at isEarlier isLater
    rw [isFirst, Option.some.injEq] at isEarlier
    rw [place, Option.some.injEq] at isLater
    omega
  have fresh : Text.lower full ∉ parser.seen := by
    intro seen
    obtain ⟨earlier, isRecord, same⟩ := List.mem_map.mp ((follows.consistent.seen _).mp seen)
    have less := ahead earlier isRecord position (by rw [same, place])
    omega
  refine ⟨position, {
    line, action := directive.action, commit := Text.lower full
    reason := if directive.action = .drop then directive.ownLabel? else none
    sectionLabel :=
      if directive.action = .bundle then directive.ownLabel?.or parser.inherited? else none
    message := directive.message }, ?_⟩
  exact {
    line := rfl
    action := rfl
    message := rfl
    commit := by rw [follows.resolver_eq, named]
    place := by rw [follows.consistent.range_eq, place]
    fresh := fresh
    later := by
      intro lastPosition previous isLast
      obtain ⟨last, isRecord, same, found⟩ := follows.consistent.last_some _ _ isLast
      exact ahead last (List.mem_of_getLast? isRecord) lastPosition (by rw [same, found])
    labelAllowed := by
      intro labelled
      cases action : directive.action with
      | pick => exact absurd (extended.unlabelled (.inl action)) labelled
      | squash => exact absurd (extended.unlabelled (.inr action)) labelled
      | drop => rfl
      | bundle => rfl
    reason := rfl
    sectionLabel := rfl
    labelled := by
      intro bundled none
      rw [if_pos bundled, Option.or_eq_none_iff] at none
      obtain ⟨label, isLabel, something⟩ :=
        extended.opened bundled (follows.inherited?_eq_none_iff.mp none.2)
      rw [Directive.ownLabel?_eq_some_iff.mpr ⟨isLabel, something⟩] at none
      exact absurd none.1 (Option.some_ne_none label) }

/-- An accepted directive extends the ones read so far. -/
theorem extends_of_accepted (follows : parser.Follows range resolver numbered)
    (accepted : parser.Accepted line directive position record) :
    Extends range resolver (numbered.map Prod.snd) directive where
  selected := by
    have named := accepted.commit
    have place := accepted.place
    rw [follows.resolver_eq] at named
    rw [follows.consistent.range_eq] at place
    obtain ⟨full, resolved, same⟩ := Directive.commit?_eq_some_iff.mp named
    rw [← same] at place
    exact ⟨full, resolved, PlanRange.mem_of_position? place⟩
  increasing := by
    intro earlier inside
    obtain ⟨read, isRecord, same⟩ := follows.matched.exists_record inside
    have named := accepted.commit
    rw [follows.resolver_eq] at named
    simp only [Directive.Before, Directive.position?, same, named, Option.bind_some]
    exact accepted.after_all follows.consistent read isRecord
  unlabelled := by
    intro bare
    by_contra labelled
    have takes := accepted.labelAllowed labelled
    rcases bare with pick | squash
    · rw [pick] at takes
      contradiction
    · rw [squash] at takes
      contradiction
  opened := by
    intro bundled first
    have none := follows.inherited?_eq_none_iff.mpr first
    have labelled := accepted.labelled bundled
    rw [accepted.sectionLabel, if_pos bundled, none, Option.or_none] at labelled
    obtain ⟨label, own⟩ := Option.ne_none_iff_exists'.mp labelled
    exact ⟨label, Directive.ownLabel?_eq_some_iff.mp own⟩

theorem describes (follows : parser.Follows range resolver numbered)
    (accepted : parser.Accepted line directive position record) :
    record.Describes resolver (numbered.map Prod.snd ++ [directive]) line directive where
  line := accepted.line
  action := accepted.action
  message := accepted.message
  commit := by rw [← follows.resolver_eq, accepted.commit]
  reason := by
    intro reason
    rw [accepted.reason]
    by_cases dropped : directive.action = .drop
    · simp [dropped, Directive.ownLabel?_eq_some_iff]
    · simp [dropped]
  bundled := by
    constructor
    · intro labelled
      by_contra other
      rw [accepted.sectionLabel, if_neg other] at labelled
      exact labelled rfl
    · exact accepted.labelled
  sectionLabel := by
    intro label
    rw [accepted.sectionLabel, Directive.labelInEffect_concat, ← follows.inherited?_eq_some_iff]
    by_cases bundled : directive.action = .bundle
    · simp [bundled, Option.or_eq_some_iff]
    · simp [bundled]

theorem push (follows : parser.Follows range resolver numbered)
    (accepted : parser.Accepted line directive position record)
    (read : Directive.ofLine raw = .ok (some directive)) :
    (parser.push position record).Follows range resolver (numbered ++ [(line, directive)]) where
  consistent := accepted.push_consistent follows.consistent read
  resolver_eq := follows.resolver_eq
  acceptable := by
    have acceptable := follows.acceptable.concat (follows.extends_of_accepted accepted)
    simpa using acceptable
  matched := follows.matched.concat (follows.describes accepted)

end Follows

end PlanParser

/-- Each line is blank, a comment or a directive. -/
def WellWritten (raws : List Text) : Prop :=
  ∀ raw ∈ raws, ∀ cause, Directive.ofLine raw ≠ .error cause

namespace PlanParser

variable {range : PlanRange} {resolver : Resolver} {parser : PlanParser}
  {numbered : List (Nat × Directive)} {line : Nat} {raw : Text} {rest : List Text}
  {directive : Directive}

theorem directivesFrom_cons_skipped (read : Directive.ofLine raw = .ok none) :
    directivesFrom line (raw :: rest) = directivesFrom (line + 1) rest := by
  simp [directivesFrom, List.zipIdx_cons, read]

theorem directivesFrom_cons_read (read : Directive.ofLine raw = .ok (some directive)) :
    directivesFrom line (raw :: rest) = (line, directive) :: directivesFrom (line + 1) rest := by
  simp [directivesFrom, List.zipIdx_cons, read]

theorem wellWritten_cons {outcome : Option Directive} (read : Directive.ofLine raw = .ok outcome) :
    WellWritten (raw :: rest) ↔ WellWritten rest := by
  simp [WellWritten, read]

/-- What the loop achieves on all lines that are left, whatever it has read before. -/
theorem Follows.processLines (follows : parser.Follows range resolver numbered) (line : Nat)
    (raws : List Text) :
    match parser.processLines line raws with
    | .ok records => WellWritten raws ∧
        Acceptable range resolver ((numbered ++ directivesFrom line raws).map Prod.snd) ∧
        RecordsOf resolver (numbered ++ directivesFrom line raws) records
    | .error _ => ¬ (WellWritten raws ∧
        Acceptable range resolver ((numbered ++ directivesFrom line raws).map Prod.snd)) := by
  induction raws generalizing parser line numbered with
  | nil =>
      have noMore : directivesFrom line [] = [] := rfl
      simp only [PlanParser.processLines, noMore, List.append_nil]
      exact ⟨by simp [WellWritten], follows.acceptable, follows.matched⟩
  | cons raw rest ih =>
      cases read : Directive.ofLine raw with
      | error cause =>
          simp only [PlanParser.processLines, processLine, read]
          rintro ⟨wellWritten, _⟩
          exact wellWritten raw (by simp) cause read
      | ok outcome =>
          rw [wellWritten_cons read]
          cases outcome with
          | none =>
              simp only [PlanParser.processLines, processLine, read,
                directivesFrom_cons_skipped read]
              exact ih follows (line + 1)
          | some directive =>
              rw [directivesFrom_cons_read read, List.append_cons]
              cases accepted : parser.accept line directive with
              | error cause =>
                  simp only [PlanParser.processLines, processLine, read, accepted]
                  rintro ⟨_, acceptable⟩
                  rw [List.map_append, List.map_append] at acceptable
                  have extended := acceptable.init.last
                  obtain ⟨position, record, found⟩ := follows.exists_accepted extended line
                  rw [accept_eq_ok_iff.mpr found] at accepted
                  contradiction
              | ok placed =>
                  obtain ⟨position, record⟩ := placed
                  simp only [PlanParser.processLines, processLine, read, accepted]
                  exact ih (follows.push (accept_eq_ok_iff.mp accepted) read) (line + 1)

end PlanParser

/-- A plan is accepted exactly if all its lines can be read and its directives are
acceptable together, and its records are then those of the directives, one for one. -/
theorem parsePlan_accepts_exactly (range : PlanRange) (resolver : Resolver) (text : Text) :
    ((∃ records, parsePlan range resolver text = .ok records) ↔
      WellWritten (Text.lines text) ∧
        Acceptable range resolver ((planDirectives text).map Prod.snd)) ∧
      ∀ records, parsePlan range resolver text = .ok records →
        RecordsOf resolver (planDirectives text) records := by
  have outcome := (PlanParser.start_follows range resolver).processLines 1 (Text.lines text)
  unfold parsePlan planDirectives
  cases parsed : (PlanParser.start range resolver).processLines 1 (Text.lines text) with
  | error error =>
      simp only [parsed, List.nil_append] at outcome
      simp [outcome]
  | ok records =>
      simp only [parsed, List.nil_append] at outcome
      obtain ⟨wellWritten, acceptable, matched⟩ := outcome
      refine ⟨⟨fun _ => ⟨wellWritten, acceptable⟩, fun _ => ⟨records, rfl⟩⟩, ?_⟩
      rintro others same
      cases same
      exact matched

/-- A record of the commit whose hash is one digit forty times, with nothing else on its line. -/
def plainRecord (line : Nat) (action : Action) (digit : Char) : Record where
  line := line
  action := action
  commit := List.replicate 40 digit
  reason := none
  sectionLabel := none
  message := none

/-- A plan with a comment in a run of bundles, a label that is left out, and one that
replaces another. -/
def bundlePlan : Text :=
  "bundle aaaaaaa %One\n# aside\nb BBBBBBB % #two\nbundle ccccccc %Three".toList

def bundleRange : PlanRange :=
  .ofHashes ["aaaaaaa".toList, "bbbbbbb".toList, "ccccccc".toList]

def bundleRecords : List Record := [
  { line := 1, action := .bundle, commit := "aaaaaaa".toList, reason := none,
    sectionLabel := some "One".toList, message := none },
  { line := 3, action := .bundle, commit := "bbbbbbb".toList, reason := none,
    sectionLabel := some "One".toList, message := some "two".toList },
  { line := 4, action := .bundle, commit := "ccccccc".toList, reason := none,
    sectionLabel := some "Three".toList, message := none }]

theorem bundlePlan_recordsOf :
    parsePlan bundleRange bundleRange.resolver bundlePlan = .ok bundleRecords ∧
      RecordsOf bundleRange.resolver (planDirectives bundlePlan) bundleRecords := by
  have parsed : parsePlan bundleRange bundleRange.resolver bundlePlan = .ok bundleRecords := by
    decide +kernel
  exact ⟨parsed, (parsePlan_accepts_exactly bundleRange bundleRange.resolver bundlePlan).2 _ parsed⟩

end CuratedHistory
