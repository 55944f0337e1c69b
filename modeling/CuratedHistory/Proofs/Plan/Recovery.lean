import CuratedHistory.Proofs.Plan.Reading
import CuratedHistory.Proofs.Plan.Run
import CuratedHistory.Proofs.Text.Lines

namespace CuratedHistory

/-! Going on after refused lines. A refused line leaves the parser as it was, so that every
later line comes to what it would come to if the refused one had never been there. -/

namespace PlanParser

variable {parser : PlanParser} {line : Nat} {raw other : Text} {raws others : List Text}
  {records : List Record} {error : PlanError} {outcome : Option Record}

/-- What numbered lines come to, one after the other, refused lines passed over. -/
def outcomes (parser : PlanParser) : List (Nat × Text) → List (Except PlanError (Option Record))
  | [] => []
  | call :: rest => (parser.processLine call.1 call.2).1 :: (parser.afterLine call).outcomes rest

/-- The numbered lines that are not refused. -/
def unrefused (parser : PlanParser) (calls : List (Nat × Text)) : List (Nat × Text) :=
  ((calls.zip (parser.outcomes calls)).filter fun entry => entry.2.isOk).map Prod.fst

/-- The lines, with an empty one for each that is refused. -/
def blanked (parser : PlanParser) (calls : List (Nat × Text)) : List Text :=
  (calls.zip (parser.outcomes calls)).map fun entry => if entry.2.isOk then entry.1.2 else []

/-- Lines with their numbers, from the given one on. -/
def numberedFrom (line : Nat) (raws : List Text) : List (Nat × Text) :=
  (raws.zipIdx line).map Prod.swap

theorem numberedFrom_cons (line : Nat) (raw : Text) (rest : List Text) :
    numberedFrom line (raw :: rest) = (line, raw) :: numberedFrom (line + 1) rest := by
  rw [numberedFrom, List.zipIdx_cons, List.map_cons]
  rfl

theorem processLine_of_refused (refused : (parser.processLine line raw).1 = .error error) :
    (parser.processLine line raw).2 = parser := by
  cases read : Directive.ofLine raw with
  | error cause => simp only [processLine, read]
  | ok found =>
      cases found with
      | none => simp only [processLine, read]
      | some directive =>
          cases accepted : parser.accept line directive with
          | error cause => simp only [processLine, read, accepted]
          | ok placed => simp [processLine, read, accepted] at refused

/-- The wording of an accepted line does not matter as long as it says the same. -/
theorem processLine_of_read_alike (alike : Directive.ofLine other = Directive.ofLine raw)
    (processed : (parser.processLine line raw).1 = .ok outcome) :
    parser.processLine line other = parser.processLine line raw := by
  cases read : Directive.ofLine raw with
  | error cause => simp [processLine, read] at processed
  | ok found =>
      rw [read] at alike
      cases found with
      | none => simp only [processLine, read, alike]
      | some directive =>
          cases accepted : parser.accept line directive with
          | error cause => simp [processLine, read, accepted] at processed
          | ok placed => simp only [processLine, read, alike, accepted]

theorem processLines_of_read_alike (alike : others.map Directive.ofLine = raws.map Directive.ofLine)
    (accepted : parser.processLines line raws = .ok records) :
    parser.processLines line others = .ok records := by
  induction raws generalizing parser line others with
  | nil => rwa [List.map_eq_nil_iff.mp alike]
  | cons raw rest ih =>
      obtain ⟨other, following, rfl, same, sameRest⟩ := List.map_eq_cons_iff.mp alike
      cases processed : (parser.processLine line raw).1 with
      | error error =>
          rw [processLines_cons_error processed] at accepted
          contradiction
      | ok outcome =>
          have step := processLine_of_read_alike same processed
          rw [processLines_cons_ok processed] at accepted
          rw [processLines_cons_ok (by rw [step, processed]), step]
          exact ih sameRest accepted

theorem processLines_concat_empty (parser : PlanParser) (line : Nat) (raws : List Text) :
    parser.processLines line (raws ++ [[]]) = parser.processLines line raws := by
  cases accepted : parser.processLines line raws with
  | error error => exact processLines_append_of_error accepted _
  | ok records =>
      rw [processLines_append_of_ok accepted, ← records_afterLines accepted]
      rfl

section Calls

variable {call : Nat × Text} {calls before later : List (Nat × Text)}

theorem unrefused_cons_ok (processed : (parser.processLine call.1 call.2).1 = .ok outcome) :
    parser.unrefused (call :: calls) = call :: (parser.afterLine call).unrefused calls := by
  simp [unrefused, outcomes, processed, Except.isOk, Except.toBool]

theorem unrefused_cons_error (refused : (parser.processLine call.1 call.2).1 = .error error) :
    parser.unrefused (call :: calls) = parser.unrefused calls := by
  simp [unrefused, outcomes, refused, Except.isOk, Except.toBool, afterLine,
    processLine_of_refused refused]

theorem blanked_cons_ok (processed : (parser.processLine call.1 call.2).1 = .ok outcome) :
    parser.blanked (call :: calls) = call.2 :: (parser.afterLine call).blanked calls := by
  simp [blanked, outcomes, processed, Except.isOk, Except.toBool]

theorem blanked_cons_error (refused : (parser.processLine call.1 call.2).1 = .error error) :
    parser.blanked (call :: calls) = [] :: parser.blanked calls := by
  simp [blanked, outcomes, refused, Except.isOk, Except.toBool, afterLine,
    processLine_of_refused refused]

/-- The lines that are not refused lead to the same parser by themselves. -/
theorem foldl_unrefused (parser : PlanParser) (calls : List (Nat × Text)) :
    (parser.unrefused calls).foldl afterLine parser = calls.foldl afterLine parser := by
  induction calls generalizing parser with
  | nil => rfl
  | cons call rest ih =>
      cases processed : (parser.processLine call.1 call.2).1 with
      | ok outcome => rw [unrefused_cons_ok processed, List.foldl_cons, List.foldl_cons, ih]
      | error error =>
          rw [unrefused_cons_error processed, List.foldl_cons, ih, afterLine,
            processLine_of_refused processed]

/-- By themselves, the lines that are not refused come to what they come to among the others. -/
theorem outcomes_unrefused (parser : PlanParser) (calls : List (Nat × Text)) :
    parser.outcomes (parser.unrefused calls) = (parser.outcomes calls).filter Except.isOk := by
  induction calls generalizing parser with
  | nil => rfl
  | cons call rest ih =>
      cases processed : (parser.processLine call.1 call.2).1 with
      | ok outcome =>
          rw [unrefused_cons_ok processed, outcomes, outcomes, ih, processed]
          rfl
      | error error =>
          rw [unrefused_cons_error processed, ih, outcomes, processed, afterLine,
            processLine_of_refused processed]
          rfl

theorem newline_notMem_blanked (parser : PlanParser) (line : Nat) (unbroken : ∀ raw ∈ raws, '\n' ∉ raw) :
    ∀ raw ∈ parser.blanked (numberedFrom line raws), '\n' ∉ raw := by
  intro raw member
  obtain ⟨⟨call, outcome⟩, inside, rfl⟩ := List.mem_map.mp member
  split
  · obtain ⟨⟨written, number⟩, isLine, rfl⟩ := List.mem_map.mp (List.of_mem_zip inside).1
    exact unbroken written (List.fst_mem_of_mem_zipIdx isLine)
  · exact List.not_mem_nil

/-- With an empty line for each refused one, the lines are accepted as one plan. -/
theorem processLines_blanked (parser : PlanParser) (line : Nat) (raws : List Text) :
    parser.processLines line (parser.blanked (numberedFrom line raws)) =
      .ok ((numberedFrom line raws).foldl afterLine parser).records := by
  induction raws generalizing parser line with
  | nil => rfl
  | cons raw rest ih =>
      rw [numberedFrom_cons]
      cases processed : (parser.processLine line raw).1 with
      | ok outcome =>
          rw [blanked_cons_ok processed, processLines_cons_ok processed, List.foldl_cons, ← ih]
          rfl
      | error error =>
          rw [blanked_cons_error processed, List.foldl_cons, afterLine,
            processLine_of_refused processed, ← ih]
          rfl

end Calls

end PlanParser

section Plans

variable {range : PlanRange} {resolver : Resolver} {raws : List Text} {records : List Record}

theorem parsePlan_unlines (unbroken : ∀ raw ∈ raws, '\n' ∉ raw)
    (accepted : (PlanParser.start range resolver).processLines 1 raws = .ok records) :
    parsePlan range resolver (unlines raws) = .ok records := by
  have written := Text.lines_unlines_append unbroken []
  rw [List.append_nil, Text.lines, List.append_nil] at written
  rw [parsePlan, written]
  refine PlanParser.processLines_of_read_alike ?_ accepted
  rw [List.map_map]
  exact List.map_congr_left fun raw _ => Directive.ofLine_of_trim_eq (Text.trim_withoutReturn raw)

/-- Without a line feed at the end, an empty last line is none. -/
theorem parsePlan_join (unbroken : ∀ raw ∈ raws, '\n' ∉ raw)
    (accepted : (PlanParser.start range resolver).processLines 1 raws = .ok records) :
    parsePlan range resolver (Text.join ['\n'] raws) = .ok records := by
  rcases List.eq_nil_or_concat raws with rfl | ⟨before, last, rfl⟩
  · exact accepted
  · rw [List.concat_eq_append] at unbroken accepted ⊢
    rw [List.forall_mem_append, List.forall_mem_singleton] at unbroken
    have alike : (before.map Text.withoutReturn).map Directive.ofLine = before.map Directive.ofLine := by
      rw [List.map_map]
      exact List.map_congr_left fun raw _ => Directive.ofLine_of_trim_eq (Text.trim_withoutReturn raw)
    rw [parsePlan, Text.join_newline_concat, Text.lines_unlines_append unbroken.1,
      Text.lines_of_unbroken unbroken.2]
    by_cases blank : last = []
    · rw [if_pos blank, List.append_nil]
      rw [blank, PlanParser.processLines_concat_empty] at accepted
      exact PlanParser.processLines_of_read_alike alike accepted
    · rw [if_neg blank]
      refine PlanParser.processLines_of_read_alike ?_ accepted
      rw [List.map_append, List.map_append, alike]

end Plans

open PlanParser in
/-- A parser that goes on after refused lines ends with the records of the plan in which an
empty line stands for each refused one. At any point, what further lines come to is what
they come to after the accepted lines alone. -/
theorem refused_lines_leave_no_trace (range : PlanRange) (resolver : Resolver) {raws : List Text}
    (unbroken : ∀ raw ∈ raws, '\n' ∉ raw) :
    (parsePlan range resolver
        (Text.join ['\n'] ((start range resolver).blanked (numberedFrom 1 raws))) =
          .ok ((numberedFrom 1 raws).foldl afterLine (start range resolver)).records ∧
      parsePlan range resolver (unlines ((start range resolver).blanked (numberedFrom 1 raws))) =
        .ok ((numberedFrom 1 raws).foldl afterLine (start range resolver)).records) ∧
      (∀ before later : List (Nat × Text),
        (before.foldl afterLine (start range resolver)).outcomes later =
          (((start range resolver).unrefused before).foldl afterLine (start range resolver)).outcomes later) ∧
      ∀ calls : List (Nat × Text),
        (start range resolver).outcomes ((start range resolver).unrefused calls) =
          ((start range resolver).outcomes calls).filter Except.isOk := by
  have kept := (start range resolver).newline_notMem_blanked 1 unbroken
  have accepted := (start range resolver).processLines_blanked 1 raws
  refine ⟨⟨parsePlan_join kept accepted, parsePlan_unlines kept accepted⟩, ?_, outcomes_unrefused _⟩
  intro before later
  rw [foldl_unrefused]

/-- A run of bundles with wrong lines in between, one of which would end the run. -/
def interruptedLines : List Text :=
  ["bundle aaaaaaa %One", "pick bbbbbbb %late", "pick", "bundle bbbbbbb\r", "drop aaaaaaa",
    "bundle ccccccc"].map String.toList

def interruptedRecords : List Record := [
  { line := 1, action := .bundle, commit := "aaaaaaa".toList, reason := none,
    sectionLabel := some "One".toList, message := none },
  { line := 4, action := .bundle, commit := "bbbbbbb".toList, reason := none,
    sectionLabel := some "One".toList, message := none },
  { line := 6, action := .bundle, commit := "ccccccc".toList, reason := none,
    sectionLabel := some "One".toList, message := none }]

open PlanParser in
theorem interruptedLines_leave_no_trace :
    (∀ raw ∈ interruptedLines, '\n' ∉ raw) ∧
      parsePlan bundleRange bundleRange.resolver
        "bundle aaaaaaa %One\n\n\nbundle bbbbbbb\r\n\nbundle ccccccc".toList = .ok interruptedRecords ∧
      (start bundleRange bundleRange.resolver).unrefused (numberedFrom 1 interruptedLines) =
        [(1, "bundle aaaaaaa %One".toList), (4, "bundle bbbbbbb\r".toList), (6, "bundle ccccccc".toList)] := by
  have unbroken : ∀ raw ∈ interruptedLines, '\n' ∉ raw := by decide +kernel
  have blanked : Text.join ['\n']
      ((start bundleRange bundleRange.resolver).blanked (numberedFrom 1 interruptedLines)) =
        "bundle aaaaaaa %One\n\n\nbundle bbbbbbb\r\n\nbundle ccccccc".toList := by
    decide +kernel
  have records : ((numberedFrom 1 interruptedLines).foldl afterLine
      (start bundleRange bundleRange.resolver)).records = interruptedRecords := by
    decide +kernel
  have parsed := (refused_lines_leave_no_trace bundleRange bundleRange.resolver unbroken).1.1
  rw [blanked, records] at parsed
  exact ⟨unbroken, parsed, by decide +kernel⟩

end CuratedHistory
