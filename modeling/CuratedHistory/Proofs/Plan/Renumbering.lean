import CuratedHistory.Proofs.Plan.Refusal
import CuratedHistory.Proofs.Plan.Run

namespace CuratedHistory

/-! What the lines of a plan amount to, wherever they stand. Blank lines and comments count
for nothing, and the numbers of the others show in the records and in nothing else. -/

def Record.unnumbered (record : Record) : Record :=
  { record with line := 0 }

/-- What the lines say, those left out that say nothing. -/
def readings (raws : List Text) : List (Except Refusal Directive) :=
  raws.filterMap fun raw =>
    match Directive.ofLine raw with
    | .ok none => none
    | .ok (some directive) => some (.ok directive)
    | .error cause => some (.error cause)

/-- The outcome of a plan without the numbers of its lines. -/
def verdict (result : Except PlanError (List Record)) : Except Refusal (List Record) :=
  match result with
  | .ok records => .ok (records.map Record.unnumbered)
  | .error error => .error error.cause

section Readings

variable {raw : Text} {raws others before after : List Text} {cause : Refusal} {directive : Directive}

theorem readings_cons_skipped (read : Directive.ofLine raw = .ok none) :
    readings (raw :: raws) = readings raws := by
  simp [readings, read]

theorem readings_cons_read (read : Directive.ofLine raw = .ok (some directive)) :
    readings (raw :: raws) = .ok directive :: readings raws := by
  simp [readings, read]

theorem readings_cons_unread (unread : Directive.ofLine raw = .error cause) :
    readings (raw :: raws) = .error cause :: readings raws := by
  simp [readings, unread]

theorem readings_append (before after : List Text) :
    readings (before ++ after) = readings before ++ readings after :=
  List.filterMap_append

theorem readings_map {rewrite : Text → Text}
    (same : ∀ raw, Directive.ofLine (rewrite raw) = Directive.ofLine raw) (raws : List Text) :
    readings (raws.map rewrite) = readings raws := by
  simp only [readings, List.filterMap_map, Function.comp_def, same]

theorem readings_filter {keep : Text → Bool}
    (silent : ∀ raw, keep raw = false → Directive.ofLine raw = .ok none) (raws : List Text) :
    readings (raws.filter keep) = readings raws := by
  induction raws with
  | nil => rfl
  | cons raw rest ih =>
      cases kept : keep raw with
      | false =>
          rw [List.filter_cons_of_neg (by simp [kept]), ih, readings_cons_skipped (silent raw kept)]
      | true =>
          rw [List.filter_cons_of_pos kept, ← List.singleton_append, readings_append, ih,
            ← readings_append, List.singleton_append]

end Readings

namespace PlanParser

variable {parser : PlanParser} {line number : Nat} {raws others : List Text}
  {directive : Directive} {position : Nat} {record : Record}

def unnumbered (parser : PlanParser) : PlanParser :=
  { parser with records := parser.records.map Record.unnumbered }

/-- What a parser makes of lines, given what they say. -/
def judge (parser : PlanParser) : List (Except Refusal Directive) → Except Refusal (List Record)
  | [] => .ok parser.records
  | .error cause :: _ => .error cause
  | .ok directive :: rest =>
      match parser.accept 0 directive with
      | .error cause => .error cause
      | .ok (position, record) => (parser.push position record).judge rest

theorem accept_unnumbered (parser : PlanParser) (line : Nat) (directive : Directive) :
    parser.unnumbered.accept 0 directive =
      (parser.accept line directive).map fun placed => (placed.1, placed.2.unnumbered) := by
  have sameCommit : parser.unnumbered.resolveHash directive.hash = parser.resolveHash directive.hash := rfl
  have samePlace : parser.unnumbered.place = parser.place := rfl
  have sameSection : parser.unnumbered.sectionFor = parser.sectionFor := rfl
  simp only [accept, sameCommit, samePlace, sameSection]
  cases parser.resolveHash directive.hash with
  | error cause => rfl
  | ok commit =>
      simp only [bind, Except.bind]
      cases parser.place commit with
      | error cause => rfl
      | ok position =>
          cases labelOf directive with
          | error cause => rfl
          | ok label =>
              cases directive.action with
              | pick | squash | drop => rfl
              | bundle =>
                  simp only
                  cases parser.sectionFor label <;> rfl

theorem push_unnumbered (parser : PlanParser) (position : Nat) (record : Record) :
    (parser.push position record).unnumbered =
      parser.unnumbered.push position record.unnumbered := by
  simp [push, unnumbered, Record.unnumbered]

theorem verdict_processLines (parser : PlanParser) (line : Nat) (raws : List Text) :
    verdict (parser.processLines line raws) = parser.unnumbered.judge (readings raws) := by
  induction raws generalizing parser line with
  | nil => rfl
  | cons raw rest ih =>
      cases read : Directive.ofLine raw with
      | error cause =>
          rw [readings_cons_unread read]
          simp [processLines, processLine, read, verdict, judge]
      | ok outcome =>
          cases outcome with
          | none =>
              rw [readings_cons_skipped read, ← ih parser (line + 1)]
              simp [processLines, processLine, read]
          | some directive =>
              rw [readings_cons_read read, judge, parser.accept_unnumbered line directive]
              cases accepted : parser.accept line directive with
              | error cause => simp [processLines, processLine, read, accepted, verdict, Except.map]
              | ok placed =>
                  obtain ⟨position, record⟩ := placed
                  simp only [Except.map, ← push_unnumbered, ← ih _ (line + 1)]
                  simp [processLines, processLine, read, accepted]

/-- Lines that say the same are accepted or refused alike. -/
theorem verdict_eq_of_readings_eq (line number : Nat) (same : readings raws = readings others) :
    verdict (parser.processLines line raws) = verdict (parser.processLines number others) := by
  rw [verdict_processLines, verdict_processLines, same]

theorem exists_ok_of_verdict {result : Except PlanError (List Record)} {records : List Record}
    (accepted : verdict result = .ok records) : ∃ numbered, result = .ok numbered := by
  cases result with
  | error error => contradiction
  | ok numbered => exact ⟨numbered, rfl⟩

/-- A refused line is refused for the same cause wherever it stands, as long as the lines
in front of it say the same. -/
theorem processLines_refused_again {raw rewritten : Text} {before rest : List Text}
    {records : List Record} {error : PlanError}
    (accepted : parser.processLines line before = .ok records)
    (stops : ((parser.afterLines line before).processLine (line + before.length) raw).1 = .error error)
    (sameBefore : readings others = readings before)
    (sameLine : Directive.ofLine rewritten = Directive.ofLine raw) :
    parser.processLines number (others ++ rewritten :: rest) =
      .error { line := number + others.length, text := rewritten, cause := error.cause } := by
  have earlier : verdict (parser.processLines number others) = verdict (.ok records) := by
    rw [← accepted]
    exact verdict_eq_of_readings_eq number line sameBefore
  obtain ⟨renumbered, acceptedAgain⟩ := exists_ok_of_verdict earlier
  -- The line is judged together with those in front, for its cause. Where it stands is
  -- known from the run over those in front alone.
  have here : readings [rewritten] = readings [raw] := by
    simp only [readings, List.filterMap_cons, sameLine]
  have upToHere : readings (others ++ [rewritten]) = readings (before ++ [raw]) := by
    rw [readings_append, readings_append, sameBefore, here]
  have refused : verdict (parser.processLines number (others ++ [rewritten])) = .error error.cause := by
    rw [verdict_eq_of_readings_eq number line upToHere, processLines_append_of_ok accepted,
      processLines_cons_error stops]
    rfl
  rw [processLines_append_of_ok acceptedAgain] at refused ⊢
  cases processed : ((parser.afterLines number others).processLine (number + others.length)
      rewritten).1 with
  | ok outcome =>
      rw [processLines_cons_ok processed] at refused
      contradiction
  | error again =>
      rw [processLines_cons_error processed] at refused ⊢
      obtain ⟨isLine, isText, _⟩ := processLine_eq_error processed
      rw [← isLine, ← isText, ← Except.error.inj refused]

end PlanParser

end CuratedHistory
