import CuratedHistory.Plan.Parser
import CuratedHistory.Proofs.Plan.Directive
import CuratedHistory.Proofs.Plan.Range

namespace CuratedHistory

/-! When a parser accepts a directive, and with which record. -/

/-- The commit that a directive names, in lower case. -/
def Directive.commit? (resolver : Resolver) (directive : Directive) : Option Text :=
  (resolver directive.hash).toOption.map Text.lower

theorem Directive.commit?_eq_some_iff {resolver : Resolver} {directive : Directive}
    {commit : Text} : directive.commit? resolver = some commit ↔
      ∃ full, resolver directive.hash = .ok full ∧ Text.lower full = commit := by
  unfold Directive.commit?
  cases resolver directive.hash with
  | error cause => simp [Except.toOption]
  | ok full => simp [Except.toOption]

namespace PlanParser

variable {parser : PlanParser} {line position : Nat} {directive : Directive} {record : Record}
  {commit sectionLabel : Text} {label : Option Text}

/-- The section that a bundled commit takes over from the line before. -/
def inherited? (parser : PlanParser) : Option Text :=
  if parser.previousAction = some .bundle then parser.sectionLabel else none

/-- The record of an accepted directive, and what the parser has to find true of it. -/
structure Accepted (parser : PlanParser) (line : Nat) (directive : Directive) (position : Nat)
    (record : Record) : Prop where
  line : record.line = line
  action : record.action = directive.action
  message : record.message = directive.message
  commit : directive.commit? parser.resolver = some record.commit
  place : parser.range.position? record.commit = some position
  fresh : record.commit ∉ parser.seen
  later : ∀ lastPosition previous, parser.last = some (lastPosition, previous) →
    lastPosition < position
  labelAllowed : directive.label ≠ none → directive.action.takesLabel = true
  reason : record.reason = if directive.action = .drop then directive.ownLabel? else none
  sectionLabel : record.sectionLabel =
    if directive.action = .bundle then directive.ownLabel?.or parser.inherited? else none
  labelled : directive.action = .bundle → record.sectionLabel ≠ none

theorem resolveHash_eq_ok_iff :
    parser.resolveHash directive.hash = .ok commit ↔
      directive.commit? parser.resolver = some commit := by
  rw [Directive.commit?_eq_some_iff]
  unfold resolveHash
  cases found : parser.resolver directive.hash with
  | ok full => simp
  | error cause => cases cause <;> simp

theorem place_eq_ok_iff :
    parser.place commit = .ok position ↔
      parser.range.position? commit = some position ∧ commit ∉ parser.seen ∧
        ∀ lastPosition previous, parser.last = some (lastPosition, previous) →
          lastPosition < position := by
  unfold place
  cases found : parser.range.position? commit with
  | none => simp
  | some candidate =>
      by_cases seen : commit ∈ parser.seen
      · simp [seen]
      · cases last : parser.last with
        | none => simp [seen]
        | some lastPlace =>
            obtain ⟨lastPosition, previous⟩ := lastPlace
            by_cases order : candidate ≤ lastPosition
            · simp only [List.contains_eq_mem, seen, decide_false, Bool.false_eq_true, if_false,
                order, if_true, reduceCtorEq, false_iff]
              rintro ⟨same, _, later⟩
              cases same
              have := later lastPosition previous rfl
              omega
            · simp only [List.contains_eq_mem, seen, decide_false, Bool.false_eq_true, if_false,
                order, Except.ok.injEq, Option.some.injEq, not_false_eq_true, true_and, Prod.mk.injEq]
              constructor
              · rintro rfl
                refine ⟨rfl, ?_⟩
                rintro _ _ ⟨rfl, rfl⟩
                omega
              · exact fun accepted => accepted.1

theorem labelOf_eq_ok_iff :
    labelOf directive = .ok label ↔
      (directive.label ≠ none → directive.action.takesLabel = true) ∧
        label = directive.ownLabel? := by
  unfold labelOf Directive.ownLabel?
  cases written : directive.label with
  | none =>
      simp only [Except.ok.injEq, ne_eq, not_true_eq_false, false_implies, true_and,
        Option.filter_none]
      exact eq_comm
  | some text =>
      by_cases takes : directive.action.takesLabel = true
      · by_cases blank : text = []
        · simp only [takes, blank, if_true, Except.ok.injEq, implies_true, true_and]
          exact eq_comm
        · simp only [takes, blank, if_true, if_false, Except.ok.injEq, implies_true, true_and,
            Option.filter, ne_eq, not_false_eq_true, decide_true]
          exact eq_comm
      · simp [takes]

theorem sectionFor_eq_ok_iff :
    parser.sectionFor label = .ok sectionLabel ↔
      label.or parser.inherited? = some sectionLabel := by
  unfold sectionFor inherited?
  cases label with
  | some own => simp
  | none =>
      cases previous : parser.previousAction with
      | none => simp
      | some action =>
          cases action <;> cases running : parser.sectionLabel <;> simp

theorem accepted_of_accept (accepted : parser.accept line directive = .ok (position, record)) :
    parser.Accepted line directive position record := by
  simp only [accept, bind_eq_ok_iff, resolveHash_eq_ok_iff, place_eq_ok_iff,
    labelOf_eq_ok_iff] at accepted
  obtain ⟨commit, resolved, place, ⟨placed, fresh, later⟩, label, ⟨allowed, rfl⟩, built⟩ := accepted
  cases action : directive.action with
  | pick | drop | squash =>
      simp only [action] at built
      cases built
      exact ⟨rfl, action.symm, rfl, resolved, placed, fresh, later, allowed,
        by simp [action], by simp [action], by simp [action]⟩
  | bundle =>
      simp only [action, bind_eq_ok_iff, sectionFor_eq_ok_iff] at built
      obtain ⟨sectionLabel, chosen, same⟩ := built
      cases same
      exact ⟨rfl, action.symm, rfl, resolved, placed, fresh, later, allowed,
        by simp [action], by simp [action, chosen], by simp⟩

theorem accept_of_accepted (accepted : parser.Accepted line directive position record) :
    parser.accept line directive = .ok (position, record) := by
  obtain ⟨recordLine, recordAction, commit, reason, sectionLabel, message⟩ := record
  obtain ⟨rfl, rfl, rfl, resolved, placed, fresh, later, allowed, isReason, isSection,
    labelled⟩ := accepted
  simp only [accept, bind_eq_ok_iff, resolveHash_eq_ok_iff, place_eq_ok_iff, labelOf_eq_ok_iff]
  refine ⟨commit, resolved, position, ⟨placed, fresh, later⟩, _, ⟨allowed, rfl⟩, ?_⟩
  cases action : directive.action with
  | pick | drop | squash =>
      simp only [action, reduceCtorEq, if_true, if_false] at isReason isSection
      subst isReason isSection
      rfl
  | bundle =>
      simp only [action, reduceCtorEq, if_true, if_false] at isReason isSection
      obtain ⟨chosen, isChosen⟩ := Option.ne_none_iff_exists'.mp (labelled action)
      simp only at isChosen
      subst isReason isChosen
      simp only [bind_eq_ok_iff, sectionFor_eq_ok_iff]
      exact ⟨chosen, isSection.symm, rfl⟩

theorem accept_eq_ok_iff :
    parser.accept line directive = .ok (position, record) ↔
      parser.Accepted line directive position record :=
  ⟨accepted_of_accept, accept_of_accepted⟩

/-- A line either leaves the parser as it was, or adds the record of its directive. -/
theorem processLine_cases (parser : PlanParser) (line : Nat) (raw : Text) :
    (parser.processLine line raw).2 = parser ∨
      ∃ directive position record, Directive.ofLine raw = .ok (some directive) ∧
        parser.Accepted line directive position record ∧
        (parser.processLine line raw).2 = parser.push position record := by
  cases read : Directive.ofLine raw with
  | error cause => simp [processLine, read]
  | ok outcome =>
      cases outcome with
      | none => simp [processLine, read]
      | some directive =>
          cases accepted : parser.accept line directive with
          | error cause => simp [processLine, read, accepted]
          | ok placed =>
              obtain ⟨position, record⟩ := placed
              refine .inr ⟨directive, position, record, rfl, accept_eq_ok_iff.mp accepted, ?_⟩
              simp [processLine, read, accepted]

end PlanParser

end CuratedHistory
