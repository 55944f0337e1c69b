import CuratedHistory.Proofs.Plan.Parser

namespace CuratedHistory

/-! Why a parser refuses a directive: the first of its checks that fails, and what the
parser has found when it fails. -/

theorem bind_eq_error_iff {α β ε : Type} {first : Except ε α} {next : α → Except ε β} {cause : ε} :
    (first >>= next) = .error cause ↔
      first = .error cause ∨ ∃ value, first = .ok value ∧ next value = .error cause := by
  cases first with
  | error cause => simp [bind, Except.bind]
  | ok value => simp [bind, Except.bind]

namespace PlanParser

variable {parser : PlanParser} {line : Nat} {directive : Directive} {commit : Text}
  {label : Option Text} {cause : Refusal}

/-- What the parser has found about a directive that it refuses, by cause. -/
inductive Refused (parser : PlanParser) (directive : Directive) : Refusal → Prop where
  | unknownCommit (lookup : parser.resolver directive.hash = .error .notFound) :
      Refused parser directive (.unknownCommit directive.hash)
  | ambiguousCommit (lookup : parser.resolver directive.hash = .error .ambiguous) :
      Refused parser directive (.ambiguousCommit directive.hash)
  | notInRange {commit : Text} (named : directive.commit? parser.resolver = some commit)
      (outside : parser.range.position? commit = none) :
      Refused parser directive (.notInRange commit)
  | duplicate {commit : Text} (named : directive.commit? parser.resolver = some commit)
      (seen : commit ∈ parser.seen) : Refused parser directive (.duplicate commit)
  | orderViolation {commit previous : Text} {position lastPosition : Nat}
      (named : directive.commit? parser.resolver = some commit)
      (place : parser.range.position? commit = some position) (fresh : commit ∉ parser.seen)
      (last : parser.last = some (lastPosition, previous)) (notLater : position ≤ lastPosition) :
      Refused parser directive (.orderViolation commit previous)
  | labelNotAllowed (labelled : directive.label ≠ none)
      (bare : directive.action.takesLabel = false) :
      Refused parser directive (.labelNotAllowed directive.action)
  | missingSectionLabel (bundled : directive.action = .bundle)
      (blank : directive.ownLabel? = none) (first : parser.inherited? = none) :
      Refused parser directive .missingSectionLabel

theorem refused_of_resolveHash (failed : parser.resolveHash directive.hash = .error cause) :
    parser.Refused directive cause := by
  unfold resolveHash at failed
  cases lookup : parser.resolver directive.hash with
  | ok full => simp [lookup] at failed
  | error outcome =>
      cases outcome <;> simp only [lookup, Except.error.injEq] at failed <;> subst failed
      · exact .unknownCommit lookup
      · exact .ambiguousCommit lookup

theorem refused_of_place (named : directive.commit? parser.resolver = some commit)
    (failed : parser.place commit = .error cause) : parser.Refused directive cause := by
  unfold place at failed
  cases place : parser.range.position? commit with
  | none =>
      simp only [place, Except.error.injEq] at failed
      subst failed
      exact .notInRange named place
  | some position =>
      by_cases seen : commit ∈ parser.seen
      · simp only [place, List.contains_eq_mem, seen, decide_true, if_true,
          Except.error.injEq] at failed
        subst failed
        exact .duplicate named seen
      · cases last : parser.last with
        | none => simp [place, seen, last] at failed
        | some lastPlace =>
            obtain ⟨lastPosition, previous⟩ := lastPlace
            by_cases order : position ≤ lastPosition
            · simp only [place, List.contains_eq_mem, seen, decide_false, Bool.false_eq_true,
                if_false, last, order, if_true, Except.error.injEq] at failed
              subst failed
              exact .orderViolation named place seen last order
            · simp [place, seen, last, order] at failed

theorem refused_of_labelOf (failed : labelOf directive = .error cause) :
    parser.Refused directive cause := by
  unfold labelOf at failed
  cases written : directive.label with
  | none => simp [written] at failed
  | some text =>
      by_cases takes : directive.action.takesLabel = true
      · simp [written, takes] at failed
      · simp only [written, takes, Bool.false_eq_true, if_false, Except.error.injEq] at failed
        subst failed
        exact .labelNotAllowed (by simp [written]) (by simpa using takes)

theorem refused_of_sectionFor (bundled : directive.action = .bundle)
    (failed : parser.sectionFor directive.ownLabel? = .error cause) :
    parser.Refused directive cause := by
  cases own : directive.ownLabel? with
  | some text => simp [sectionFor, own] at failed
  | none =>
      have first : parser.inherited? = none := by
        by_contra inherits
        obtain ⟨label, inherited⟩ := Option.ne_none_iff_exists'.mp inherits
        rw [sectionFor_eq_ok_iff.mpr (by rw [own, Option.none_or, inherited])] at failed
        contradiction
      have cause_eq : cause = .missingSectionLabel := by
        unfold sectionFor at failed
        simp only [own] at failed
        split at failed <;> simp_all
      subst cause_eq
      exact .missingSectionLabel bundled own first

theorem refused_of_accept (failed : parser.accept line directive = .error cause) :
    parser.Refused directive cause := by
  simp only [accept, bind_eq_error_iff, resolveHash_eq_ok_iff, place_eq_ok_iff,
    labelOf_eq_ok_iff] at failed
  rcases failed with unresolved | ⟨commit, named, misplaced | ⟨position, _, mislabelled |
    ⟨label, ⟨_, rfl⟩, unsectioned⟩⟩⟩
  · exact refused_of_resolveHash unresolved
  · exact refused_of_place named misplaced
  · exact refused_of_labelOf mislabelled
  · cases action : directive.action with
    | pick | drop | squash =>
        simp only [action] at unsectioned
        contradiction
    | bundle =>
        simp only [action, bind_eq_error_iff] at unsectioned
        rcases unsectioned with failed | ⟨_, _, impossible⟩
        · exact refused_of_sectionFor action failed
        · contradiction

theorem processLine_eq_error {raw : Text} {error : PlanError}
    (failed : (parser.processLine line raw).1 = .error error) :
    error.line = line ∧ error.text = raw ∧
      (Directive.ofLine raw = .error error.cause ∨
        ∃ directive, Directive.ofLine raw = .ok (some directive) ∧
          parser.Refused directive error.cause) := by
  cases read : Directive.ofLine raw with
  | error cause =>
      simp only [processLine, read, Except.error.injEq] at failed
      subst failed
      exact ⟨rfl, rfl, .inl rfl⟩
  | ok outcome =>
      cases outcome with
      | none => simp [processLine, read] at failed
      | some directive =>
          cases accepted : parser.accept line directive with
          | ok placed => simp [processLine, read, accepted] at failed
          | error cause =>
              simp only [processLine, read, accepted, Except.error.injEq] at failed
              subst failed
              exact ⟨rfl, rfl, .inr ⟨directive, rfl, refused_of_accept accepted⟩⟩

end PlanParser

end CuratedHistory
