import CuratedHistory.Proofs.Plan.Recovery
import CuratedHistory.Proofs.Plan.Renumbering
import CuratedHistory.Proofs.Plan.Respelling

namespace CuratedHistory

/-! Two plans whose lines read alike, one by one, those left out that say nothing. The parser
goes through both in step. What it threads differs in the numbers of lines and in nothing else. -/

variable {raw text other : Text} {raws : List Text} {line number : Nat} {directive : Directive}
  {cause : Refusal} {range : PlanRange} {resolver : Resolver}

/-- A line that is blank or a comment. -/
def Silent (raw : Text) : Prop :=
  Text.trim raw = [] ∨ (Text.trim raw).head? = some '#'

instance (raw : Text) : Decidable (Silent raw) :=
  inferInstanceAs (Decidable (_ ∨ _))

/-- The numbers of the lines that are neither blank nor comments. -/
def spokenNumbers (text : Text) : List Nat :=
  ((PlanParser.numberedFrom 1 (Text.lines text)).filter fun call => !decide (Silent call.2)).map Prod.fst

/-- What the lines say, as `readings`, and the numbers of the lines that say it. -/
def sayings (line : Nat) (raws : List Text) : List (Nat × Except Refusal Directive) :=
  (PlanParser.numberedFrom line raws).flatMap fun call => (readings [call.2]).map (Prod.mk call.1)

/-- The outcome of a plan, of a refused one the number of the refused line and the cause. -/
def located (result : Except PlanError (List Record)) : Except (Nat × Refusal) (List Record) :=
  result.mapError fun error => (error.line, error.cause)

/-- Both plans are accepted, with the same records apart from the numbers of their lines, or
both are refused, at the same one of these lines and for causes of one kind. -/
inductive SameOutcome (numbers others : List Nat) :
    Except (Nat × Refusal) (List Record) → Except (Nat × Refusal) (List Record) → Prop where
  | accepted {records more : List Record} (same : records.map Record.unnumbered = more.map Record.unnumbered)
      (placed : records.map Record.line = numbers) (placedToo : more.map Record.line = others) :
      SameOutcome numbers others (.ok records) (.ok more)
  | refused {line number : Nat} {cause another : Refusal} (index : Nat)
      (placed : numbers[index]? = some line) (placedToo : others[index]? = some number)
      (kind : cause.SameKind another) :
      SameOutcome numbers others (.error (line, cause)) (.error (number, another))

/-- The two texts come to the same over the range, where only lines that say something count. -/
def SameMeaning (range : PlanRange) (resolver : Resolver) (text other : Text) : Prop :=
  SameOutcome (spokenNumbers text) (spokenNumbers other)
    (located (parsePlan range resolver text)) (located (parsePlan range resolver other))

/-- What the lines of the text say. -/
def said (text : Text) : List (Except Refusal Directive) :=
  readings (Text.lines text)

/-- The lines of the two texts read alike, one by one, those left out that say nothing. -/
def LinesAlike (text other : Text) : Prop :=
  List.Forall₂ ReadAlike (said text) (said other)

/-! What the lines say, and on which ones it stands -/

theorem sayings_cons (line : Nat) (raw : Text) (rest : List Text) :
    sayings line (raw :: rest) = (readings [raw]).map (Prod.mk line) ++ sayings (line + 1) rest := by
  rw [sayings, PlanParser.numberedFrom_cons, List.flatMap_cons, sayings]

theorem map_snd_sayings (line : Nat) (raws : List Text) :
    (sayings line raws).map Prod.snd = readings raws := by
  induction raws generalizing line with
  | nil => rfl
  | cons raw rest ih =>
      have here : ((readings [raw]).map (Prod.mk line)).map Prod.snd = readings [raw] := by
        rw [List.map_map]
        exact List.map_id _
      rw [sayings_cons, List.map_append, ih, here, ← readings_append, List.singleton_append]

theorem ofLine_eq_none_iff : Directive.ofLine raw = .ok none ↔ Silent raw := by
  refine ⟨fun read => ?_, Directive.ofLine_silent⟩
  by_contra speaks
  rw [Silent, not_or] at speaks
  rw [Directive.ofLine_spoken speaks.1 speaks.2] at read
  cases found : Directive.ofTrimmed (Text.trim raw) <;> simp [found, Except.map] at read

theorem readings_nil : readings [] = [] :=
  rfl

theorem length_readings_singleton (raw : Text) : (readings [raw]).length = if Silent raw then 0 else 1 := by
  by_cases silent : Silent raw
  · rw [if_pos silent, readings_cons_skipped (ofLine_eq_none_iff.mpr silent)]
    rfl
  · rw [if_neg silent]
    cases read : Directive.ofLine raw with
    | error cause => rw [readings_cons_unread read, List.length_cons, readings_nil, List.length_nil]
    | ok found =>
        cases found with
        | none => exact absurd (ofLine_eq_none_iff.mp read) silent
        | some directive => rw [readings_cons_read read, List.length_cons, readings_nil, List.length_nil]

theorem map_fst_sayings (line : Nat) (raws : List Text) :
    (sayings line raws).map Prod.fst =
      ((PlanParser.numberedFrom line raws).filter fun call => !decide (Silent call.2)).map Prod.fst := by
  induction raws generalizing line with
  | nil => rfl
  | cons raw rest ih =>
      have here : ((readings [raw]).map (Prod.mk line)).map Prod.fst =
          List.replicate (if Silent raw then 0 else 1) line := by
        rw [List.map_map, ← length_readings_singleton]
        exact List.map_const'
      rw [sayings_cons, List.map_append, ih, here, PlanParser.numberedFrom_cons]
      by_cases silent : Silent raw <;> simp [silent]

namespace PlanParser

variable {parser twin : PlanParser} {position : Nat} {record : Record}
  {said others : List (Nat × Except Refusal Directive)}

/-- What a parser makes of lines, given what they say. -/
def follow (parser : PlanParser) :
    List (Nat × Except Refusal Directive) → Except (Nat × Refusal) (List Record)
  | [] => .ok parser.records
  | (line, .error cause) :: _ => .error (line, cause)
  | (line, .ok directive) :: rest =>
      match parser.accept line directive with
      | .error cause => .error (line, cause)
      | .ok (position, record) => (parser.push position record).follow rest

theorem located_processLines (parser : PlanParser) (line : Nat) (raws : List Text) :
    located (parser.processLines line raws) = parser.follow (sayings line raws) := by
  induction raws generalizing parser line with
  | nil => rfl
  | cons raw rest ih =>
      rw [sayings_cons]
      cases read : Directive.ofLine raw with
      | error cause =>
          rw [readings_cons_unread read]
          simp [processLines, processLine, read, located, follow, Except.mapError]
      | ok found =>
          cases found with
          | none =>
              rw [readings_cons_skipped read, readings_nil, List.map_nil, List.nil_append,
                ← ih parser (line + 1)]
              simp [processLines, processLine, read]
          | some directive =>
              rw [readings_cons_read read, List.map_cons, List.cons_append, follow]
              cases accepted : parser.accept line directive with
              | error cause => simp [processLines, processLine, read, accepted, located, Except.mapError]
              | ok placed =>
                  obtain ⟨position, record⟩ := placed
                  simp only [processLines, processLine, read, accepted, ih]
                  rfl

/-- Parsers that differ in numbers only accept and refuse the same directives, whatever the
numbers of their lines. -/
theorem accept_together (together : parser.unnumbered = twin.unnumbered) (line number : Nat)
    (directive : Directive) :
    (∃ cause, parser.accept line directive = .error cause ∧ twin.accept number directive = .error cause) ∨
      ∃ position record double, parser.accept line directive = .ok (position, record) ∧
        twin.accept number directive = .ok (position, double) ∧ record.unnumbered = double.unnumbered := by
  have one := parser.accept_unnumbered line directive
  have two := twin.accept_unnumbered number directive
  rw [together, two] at one
  cases accepted : parser.accept line directive with
  | error cause =>
      cases acceptedToo : twin.accept number directive with
      | error other =>
          simp only [accepted, acceptedToo, Except.map, Except.error.injEq] at one
          exact .inl ⟨cause, rfl, by rw [one]⟩
      | ok other => simp [accepted, acceptedToo, Except.map] at one
  | ok placed =>
      cases acceptedToo : twin.accept number directive with
      | error other => simp [accepted, acceptedToo, Except.map] at one
      | ok other =>
          obtain ⟨position, record⟩ := placed
          obtain ⟨positionToo, double⟩ := other
          simp only [accepted, acceptedToo, Except.map, Except.ok.injEq, Prod.mk.injEq] at one
          exact .inr ⟨position, record, double, rfl, by rw [one.1], one.2.symm⟩

theorem push_together (together : parser.unnumbered = twin.unnumbered) {double : Record}
    (same : record.unnumbered = double.unnumbered) (position : Nat) :
    (parser.push position record).unnumbered = (twin.push position double).unnumbered := by
  rw [push_unnumbered, push_unnumbered, together, same]

theorem length_together (together : parser.unnumbered = twin.unnumbered) :
    parser.records.length = twin.records.length := by
  have same : parser.records.map Record.unnumbered = twin.records.map Record.unnumbered :=
    congrArg records together
  simpa using congrArg List.length same

/-- The numbers of the records and of what is left to read, after a record for the first of them. -/
theorem numbers_push (accepted : parser.accept line directive = .ok (position, record))
    (rest : List Nat) :
    (parser.push position record).records.map Record.line ++ rest =
      parser.records.map Record.line ++ line :: rest := by
  simp [push, (accepted_of_accept accepted).line]

/-- Lines that read alike come to the same, whichever numbers they have. -/
theorem follow_alike (alike : List.Forall₂ (fun one two => ReadAlike one.2 two.2) said others)
    (together : parser.unnumbered = twin.unnumbered) :
    SameOutcome (parser.records.map Record.line ++ said.map Prod.fst)
      (twin.records.map Record.line ++ others.map Prod.fst) (parser.follow said) (twin.follow others) := by
  -- Each line that was accepted has left a record in both parsers, so that the next one has
  -- the same index in both lists of numbers: the number of records so far.
  induction alike generalizing parser twin with
  | nil => exact .accepted (congrArg records together) (List.append_nil _).symm (List.append_nil _).symm
  | @cons one two said others here rest ih =>
      obtain ⟨line, reading⟩ := one
      obtain ⟨number, readingToo⟩ := two
      have placed : (parser.records.map Record.line ++ line :: said.map Prod.fst)[parser.records.length]? =
          some line := by simp
      have placedToo :
          (twin.records.map Record.line ++ number :: others.map Prod.fst)[parser.records.length]? =
            some number := by simp [length_together together]
      rw [List.map_cons, List.map_cons]
      cases here with
      | unread kind => exact .refused _ placed placedToo kind
      | read directive =>
          simp only [follow]
          rcases accept_together together line number directive with
            ⟨cause, failed, failedToo⟩ | ⟨position, record, double, accepted, acceptedToo, sameRecord⟩
          · simp only [failed, failedToo]
            exact .refused _ placed placedToo rfl
          · simp only [accepted, acceptedToo]
            rw [← numbers_push accepted, ← numbers_push acceptedToo]
            exact ih (push_together together sameRecord position)

end PlanParser

/-- Plans whose lines read alike mean the same. -/
theorem LinesAlike.sameMeaning (alike : LinesAlike text other) (range : PlanRange) (resolver : Resolver) :
    SameMeaning range resolver text other := by
  rw [LinesAlike, said, said, ← map_snd_sayings 1, ← map_snd_sayings 1, List.forall₂_map_left_iff,
    List.forall₂_map_right_iff] at alike
  rw [SameMeaning, parsePlan, parsePlan, PlanParser.located_processLines, PlanParser.located_processLines,
    spokenNumbers, spokenNumbers, ← map_fst_sayings, ← map_fst_sayings]
  exact @PlanParser.follow_alike (.start range resolver) _ _ _ alike rfl

end CuratedHistory
