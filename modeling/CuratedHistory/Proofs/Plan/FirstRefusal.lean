import CuratedHistory.Proofs.Plan.Reading
import CuratedHistory.Proofs.Plan.Refusal
import CuratedHistory.Proofs.Plan.Run

namespace CuratedHistory

/-! What a refused plan is told: the first line that is refused, as it stands, and a cause
that is true of it and of the lines accepted before it. -/

variable {range : PlanRange} {resolver : Resolver} {text raw : Text} {error : PlanError}

/-- The hash is written on the line, in whatever case of its letters. -/
def HashOn (raw hash : Text) : Prop :=
  ∃ written, written <:+: raw ∧ Directive.isHash written = true ∧ hash = Text.lower written

/-- The line reads as a directive, whose hash the resolver finds to be that of a commit. -/
def NamedOn (resolver : Resolver) (raw commit : Text) : Prop :=
  ∃ directive, Directive.ofLine raw = .ok (some directive) ∧
    directive.commit? resolver = some commit

/-- What is true of a line, and of the records of the lines before it, that is refused for
this cause. -/
inductive Refusal.TrueOf (range : PlanRange) (resolver : Resolver) (earlier : List Record)
    (raw : Text) : Refusal → Prop where
  | unknownAction {keyword : Text} (unread : Directive.ofLine raw = .error (.unknownAction keyword)) :
      TrueOf range resolver earlier raw (.unknownAction keyword)
  | missingHash (unread : Directive.ofLine raw = .error .missingHash) :
      TrueOf range resolver earlier raw .missingHash
  | invalidHash {hash : Text} (unread : Directive.ofLine raw = .error (.invalidHash hash)) :
      TrueOf range resolver earlier raw (.invalidHash hash)
  | unexpectedText {tail : Text} (unread : Directive.ofLine raw = .error (.unexpectedText tail)) :
      TrueOf range resolver earlier raw (.unexpectedText tail)
  | unknownCommit {directive : Directive} (read : Directive.ofLine raw = .ok (some directive))
      (written : HashOn raw directive.hash) (lookup : resolver directive.hash = .error .notFound) :
      TrueOf range resolver earlier raw (.unknownCommit directive.hash)
  | ambiguousCommit {directive : Directive} (read : Directive.ofLine raw = .ok (some directive))
      (written : HashOn raw directive.hash) (lookup : resolver directive.hash = .error .ambiguous) :
      TrueOf range resolver earlier raw (.ambiguousCommit directive.hash)
  | notInRange {commit : Text} (named : NamedOn resolver raw commit) (outside : commit ∉ range.members) :
      TrueOf range resolver earlier raw (.notInRange commit)
  | duplicate {commit : Text} (named : NamedOn resolver raw commit)
      (again : commit ∈ earlier.map Record.commit) :
      TrueOf range resolver earlier raw (.duplicate commit)
  | orderViolation {last : Record} {commit : Text} {position lastPosition : Nat}
      (named : NamedOn resolver raw commit) (isLast : earlier.getLast? = some last)
      (fresh : commit ∉ earlier.map Record.commit) (place : range.position? commit = some position)
      (lastPlace : range.position? last.commit = some lastPosition) (before : position < lastPosition) :
      TrueOf range resolver earlier raw (.orderViolation commit last.commit)
  | labelNotAllowed {directive : Directive} (read : Directive.ofLine raw = .ok (some directive))
      (bare : directive.action = .pick ∨ directive.action = .squash) (labelled : directive.label ≠ none)
      (percent : '%' ∈ raw) : TrueOf range resolver earlier raw (.labelNotAllowed directive.action)
  | missingSectionLabel {directive : Directive} (read : Directive.ofLine raw = .ok (some directive))
      (bundled : directive.action = .bundle)
      (blank : directive.label = none ∨ directive.label = some [])
      (opens : ∀ last ∈ earlier.getLast?, last.action ≠ .bundle) :
      TrueOf range resolver earlier raw .missingSectionLabel

namespace Directive

variable {cause : Refusal} {directive : Directive}

theorem readAction_eq_error {keyword : Text} (failed : readAction keyword = .error cause) :
    cause = .unknownAction keyword := by
  unfold readAction at failed
  split at failed
  · contradiction
  · exact (Except.error.inj failed).symm

theorem readHash_eq_error {rest : Text} (failed : readHash rest = .error cause) :
    cause = .missingHash ∨ ∃ hash, cause = .invalidHash hash := by
  unfold readHash at failed
  split at failed
  · exact .inl (Except.error.inj failed).symm
  · split at failed
    · exact .inl (Except.error.inj failed).symm
    · simp only at failed
      split at failed
      · contradiction
      · exact .inr ⟨_, (Except.error.inj failed).symm⟩

theorem readTail_eq_error {tail : Text} (failed : readTail tail = .error cause) :
    cause = .unexpectedText tail := by
  unfold readTail at failed
  split at failed
  · contradiction
  · contradiction
  · contradiction
  · exact (Except.error.inj failed).symm

theorem ofLine_eq_error (unread : ofLine raw = .error cause) :
    (∃ keyword, cause = .unknownAction keyword) ∨ cause = .missingHash ∨
      (∃ hash, cause = .invalidHash hash) ∨ ∃ tail, cause = .unexpectedText tail := by
  have failed := ofTrimmed_of_ofLine_error unread
  simp only [ofTrimmed, bind_eq_error_iff] at failed
  rcases failed with noAction | ⟨action, _, noHash | ⟨hashed, _, noTail | ⟨_, _, impossible⟩⟩⟩
  · exact .inl ⟨_, readAction_eq_error noAction⟩
  · rcases readHash_eq_error noHash with missing | invalid
    · exact .inr (.inl missing)
    · exact .inr (.inr (.inl invalid))
  · exact .inr (.inr (.inr ⟨_, readTail_eq_error noTail⟩))
  · contradiction

theorem hashOn_of_ofLine (read : ofLine raw = .ok (some directive)) : HashOn raw directive.hash := by
  obtain ⟨keyword, gap, written, tail, parts⟩ := exists_writtenAs (ofTrimmed_of_ofLine read)
  exact ⟨written, parts.written_isInfix.trans (Text.trim_isInfix raw), parts.isHash, parts.hash⟩

theorem percent_mem_of_ofLine (read : ofLine raw = .ok (some directive))
    (labelled : directive.label ≠ none) : '%' ∈ raw := by
  obtain ⟨keyword, gap, written, tail, parts⟩ := exists_writtenAs (ofTrimmed_of_ofLine read)
  exact (Text.trim_isInfix raw).sublist.subset (parts.percent_mem labelled)

end Directive

namespace PlanParser

variable {parser : PlanParser} {directive : Directive} {cause : Refusal}

theorem Refused.trueOf (refused : parser.Refused directive cause) (consistent : parser.Consistent range)
    (read : Directive.ofLine raw = .ok (some directive)) :
    cause.TrueOf range parser.resolver parser.records raw := by
  cases refused with
  | unknownCommit lookup => exact .unknownCommit read (Directive.hashOn_of_ofLine read) lookup
  | ambiguousCommit lookup => exact .ambiguousCommit read (Directive.hashOn_of_ofLine read) lookup
  | notInRange named outside =>
      rename_i commit
      refine .notInRange ⟨directive, read, named⟩ ?_
      rw [consistent.range_eq] at outside
      rw [PlanRange.mem_iff_position?, outside]
      simp
  | duplicate named seen => exact .duplicate ⟨directive, read, named⟩ ((consistent.seen _).mp seen)
  | orderViolation named place fresh last notLater =>
      rename_i commit previous position lastPosition
      obtain ⟨record, isLast, rfl, lastPlace⟩ := consistent.last_some lastPosition previous last
      rw [consistent.range_eq] at place
      have unseen : commit ∉ parser.records.map Record.commit :=
        fun again => fresh ((consistent.seen commit).mpr again)
      refine .orderViolation ⟨directive, read, named⟩ isLast unseen place lastPlace ?_
      -- At the place of the last record stands its own commit, which has been seen.
      refine Nat.lt_of_le_of_ne notLater ?_
      rintro rfl
      rw [PlanRange.position?_injective place lastPlace] at unseen
      exact unseen (List.mem_map_of_mem (List.mem_of_getLast? isLast))
  | labelNotAllowed labelled bare =>
      refine .labelNotAllowed read ?_ labelled (Directive.percent_mem_of_ofLine read labelled)
      cases action : directive.action <;> simp_all [Action.takesLabel]
  | missingSectionLabel bundled blank first =>
      refine .missingSectionLabel read bundled (Directive.ownLabel?_eq_none_iff.mp blank) ?_
      have previous := consistent.inherited?_eq.2.mp first
      rw [consistent.previousAction] at previous
      intro last isLast bundle
      rw [Option.mem_def] at isLast
      rw [isLast, Option.map_some, bundle] at previous
      exact previous rfl

theorem trueOf_of_unread (unread : Directive.ofLine raw = .error cause) (earlier : List Record) :
    cause.TrueOf range resolver earlier raw := by
  rcases Directive.ofLine_eq_error unread with ⟨keyword, rfl⟩ | rfl | ⟨hash, rfl⟩ | ⟨tail, rfl⟩
  · exact .unknownAction unread
  · exact .missingHash unread
  · exact .invalidHash unread
  · exact .unexpectedText unread

end PlanParser

/-- The parser as it comes to a line of a plan, with the lines counted from zero. -/
def parserAt (range : PlanRange) (resolver : Resolver) (text : Text) (index : Nat) : PlanParser :=
  (PlanParser.start range resolver).afterLines 1 ((Text.lines text).take index)

/-- An error that reports the first refused line of a plan, which stands at the given place
after the lines of these records. -/
structure FirstRefusal (range : PlanRange) (resolver : Resolver) (text : Text) (error : PlanError)
    (index : Nat) (earlier : List Record) : Prop where
  number : error.line = index + 1
  verbatim : (Text.lines text)[index]? = some error.text
  refused : ((parserAt range resolver text index).processLine (index + 1) error.text).1 = .error error
  notBefore : ∀ before raw, before < index → (Text.lines text)[before]? = some raw →
    ∃ outcome, ((parserAt range resolver text before).processLine (before + 1) raw).1 = .ok outcome
  accepted : (parserAt range resolver text index).records = earlier
  matched : RecordsOf resolver (directivesFrom 1 ((Text.lines text).take index)) earlier
  cause : error.cause.TrueOf range resolver earlier error.text
  sameStart : ∀ other, (Text.lines other).take (index + 1) = (Text.lines text).take (index + 1) →
    parsePlan range resolver other = .error error

theorem parserAt_of_split (range : PlanRange) (resolver : Resolver) {before after : List Text}
    (split : Text.lines text = before ++ after) :
    parserAt range resolver text before.length =
      (PlanParser.start range resolver).afterLines 1 before := by
  rw [parserAt, split, List.take_left]

/-- The error of a refused plan is about its first refused line and true of it, whatever
stands behind that line. -/
theorem parsePlan_first_refusal (failed : parsePlan range resolver text = .error error) :
    ∃ index earlier, FirstRefusal range resolver text error index earlier := by
  obtain ⟨before, raw, after, earlier, split, accepted, stops⟩ :=
    PlanParser.exists_refused_of_processLines failed
  obtain ⟨number, rfl, found⟩ := PlanParser.processLine_eq_error stops
  have follows := (PlanParser.start_follows range resolver).afterLines accepted
  have isEarlier := PlanParser.records_afterLines accepted
  have here := parserAt_of_split range resolver split
  refine ⟨before.length, earlier, ?_⟩
  constructor
  case number => rw [number, Nat.add_comm]
  case verbatim => simp [split]
  case refused => rwa [here, Nat.add_comm]
  case notBefore =>
    intro index other inside isOther
    have place : before[index]? = some other := by
      rwa [split, List.getElem?_append_left inside] at isOther
    have outcome := PlanParser.exists_ok_at accepted place
    rwa [parserAt, split, List.take_append_of_le_length (Nat.le_of_lt inside), Nat.add_comm]
  case accepted => rw [here, isEarlier]
  case matched =>
    have matched := follows.matched
    have upToHere : (Text.lines text).take before.length = before := by rw [split, List.take_left]
    rwa [List.nil_append, isEarlier, ← upToHere] at matched
  case cause =>
    rcases found with unread | ⟨directive, read, refused⟩
    · exact PlanParser.trueOf_of_unread unread earlier
    · have truth := refused.trueOf follows.consistent read
      rwa [follows.resolver_eq, isEarlier] at truth
  case sameStart =>
    intro other same
    refine PlanParser.processLines_of_same_start accepted stops ?_
    rw [same, split, List.take_append]
    simp

/-- A plan with a line that comes too early and has a label besides, and another wrong line
after it. -/
def disorderedPlan : Text :=
  "bundle AAAAAAA %One\n# aside\npick ccccccc\npick bbbbbbb %late\npick".toList

theorem disorderedPlan_first_refusal :
    parsePlan bundleRange bundleRange.resolver disorderedPlan =
        .error {
          line := 4, text := "pick bbbbbbb %late".toList
          cause := .orderViolation "bbbbbbb".toList "ccccccc".toList } ∧
      ∃ index earlier, FirstRefusal bundleRange bundleRange.resolver disorderedPlan {
        line := 4, text := "pick bbbbbbb %late".toList
        cause := .orderViolation "bbbbbbb".toList "ccccccc".toList } index earlier := by
  have failed : parsePlan bundleRange bundleRange.resolver disorderedPlan =
      .error {
        line := 4, text := "pick bbbbbbb %late".toList
        cause := .orderViolation "bbbbbbb".toList "ccccccc".toList } := by decide +kernel
  exact ⟨failed, parsePlan_first_refusal failed⟩

end CuratedHistory
