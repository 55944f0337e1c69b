import CuratedHistory.Plan.Template
import CuratedHistory.Proofs.Plan.Acceptance
import CuratedHistory.Proofs.Plan.Reading
import CuratedHistory.Proofs.Plan.Renumbering
import CuratedHistory.Proofs.Text.Lines

namespace CuratedHistory

/-! A refused plan that is shown again with comments on its error. All earlier comments on
errors are taken out, so that a line moves up by as many of them as stand above it. -/

variable {range : PlanRange} {resolver : Resolver} {text raw : Text} {error : PlanError}

/-- How many comments on errors stand above a line, with the lines counted from one. -/
def commentsAbove (text : Text) (line : Nat) : Nat :=
  ((Text.lines text).take (line - 1)).countP isErrorComment

theorem ofLine_of_isErrorComment (comment : isErrorComment raw = true) :
    Directive.ofLine raw = .ok none := by
  obtain ⟨rest, shape⟩ := List.isPrefixOf_iff_prefix.mp comment
  have marked : Text.trimStart raw = '#' :: (errorMarker.tail ++ rest) := shape.symm
  apply Directive.ofLine_comment
  rw [Text.trim, marked, Text.trimEnd_cons (by decide), List.head?_cons]

theorem lines_withErrorComments (text : Text) (error : PlanError) :
    Text.lines (withErrorComments text error) =
      ((Text.lines text).filter fun line => !isErrorComment line).map Text.withoutReturn ++
        Text.lines (unlines (errorComments error)) := by
  apply Text.lines_unlines_append
  intro line member
  exact Text.newline_notMem_of_mem_lines text line (List.mem_of_mem_filter member)

theorem readings_annotated (raws : List Text) :
    readings ((raws.filter fun line => !isErrorComment line).map Text.withoutReturn) = readings raws := by
  rw [readings_map fun raw => Directive.ofLine_of_trim_eq (Text.trim_withoutReturn raw)]
  exact readings_filter (fun raw dropped => ofLine_of_isErrorComment (by simpa using dropped)) raws

theorem length_annotated (raws : List Text) :
    ((raws.filter fun line => !isErrorComment line).map Text.withoutReturn).length =
      raws.length - raws.countP isErrorComment := by
  have counted := raws.length_eq_countP_add_countP isErrorComment
  rw [List.length_map, ← List.countP_eq_length_filter]
  simp only [Bool.not_eq_true, Bool.decide_eq_false] at counted
  omega

/-- An annotated plan is refused again for the same cause, at the same line of the writer.
The number of this line is the same exactly if no comment on an earlier error stood above. -/
theorem withErrorComments_refused_again (failed : parsePlan range resolver text = .error error) :
    parsePlan range resolver (withErrorComments text error) =
        .error {
          line := error.line - commentsAbove text error.line
          text := Text.withoutReturn error.text, cause := error.cause } ∧
      (Text.lines (withErrorComments text error))[error.line - commentsAbove text error.line - 1]? =
        some (Text.withoutReturn error.text) ∧
      (error.line - commentsAbove text error.line = error.line ↔
        ∀ raw ∈ (Text.lines text).take (error.line - 1), isErrorComment raw = false) := by
  obtain ⟨before, raw, after, earlier, split, accepted, stops⟩ :=
    PlanParser.exists_refused_of_processLines failed
  obtain ⟨number, rfl, found⟩ := PlanParser.processLine_eq_error stops
  have written : isErrorComment error.text = false := by
    by_contra comment
    have silent := ofLine_of_isErrorComment (by simpa using comment)
    rcases found with unread | ⟨directive, read, _⟩ <;> simp_all
  -- The refused line is no comment and stays; of the lines in front only the comments go.
  have above : commentsAbove text error.line = before.countP isErrorComment := by
    rw [commentsAbove, number, split, Nat.add_sub_cancel_left, List.take_left]
  have bound : before.countP isErrorComment ≤ before.length := List.countP_le_length
  have place : error.line - commentsAbove text error.line =
      1 + (before.length - before.countP isErrorComment) := by omega
  have annotated := lines_withErrorComments text error
  rw [split, List.filter_append, List.filter_cons_of_pos (by simp [written]), List.map_append,
    List.map_cons, List.append_assoc, List.cons_append] at annotated
  refine ⟨?_, ?_, ?_⟩
  · rw [parsePlan, annotated, PlanParser.processLines_refused_again accepted stops
      (readings_annotated before) (Directive.ofLine_of_trim_eq (Text.trim_withoutReturn _)),
      length_annotated, place]
  · rw [annotated, place, ← length_annotated, Nat.add_sub_cancel_left]
    simp
  · have none : before.countP isErrorComment = 0 ↔ ∀ raw ∈ before, isErrorComment raw = false := by
      simp [List.countP_eq_zero]
    rw [above, number, split, Nat.add_sub_cancel_left, List.take_left, ← none]
    omega

/-- A plan that was refused once, and then went on below the comments on the error. -/
def continuedPlan : Text :=
  ("pick aaaaaaa\n# ERROR: line 1: first commit in a bundle run must include %SECTION\n" ++
    "# ERROR:   bundle aaaaaaa\nbundle bbbbbbb\n").toList

def continuedError : PlanError where
  line := 4
  text := "bundle bbbbbbb".toList
  cause := .missingSectionLabel

theorem parsePlan_continuedPlan :
    parsePlan bundleRange bundleRange.resolver continuedPlan = .error continuedError := by
  decide +kernel

theorem continuedPlan_refused_again :
    parsePlan bundleRange bundleRange.resolver continuedPlan = .error continuedError ∧
      parsePlan bundleRange bundleRange.resolver (withErrorComments continuedPlan continuedError) =
        .error { continuedError with line := 2 } := by
  have above : commentsAbove continuedPlan continuedError.line = 2 := by decide +kernel
  have again := (withErrorComments_refused_again parsePlan_continuedPlan).1
  rw [above] at again
  exact ⟨parsePlan_continuedPlan, again⟩

/-- The number of a refused line does not survive the annotation of its plan. -/
theorem exists_renumbered_line :
    ¬ ∀ (range : PlanRange) (resolver : Resolver) (text : Text) (error : PlanError),
      parsePlan range resolver text = .error error →
        ∃ again, parsePlan range resolver (withErrorComments text error) = .error again ∧
          again.line = error.line ∧ again.cause = error.cause := by
  intro kept
  have moved : parsePlan bundleRange bundleRange.resolver
      (withErrorComments continuedPlan continuedError) = .error { continuedError with line := 2 } := by
    decide +kernel
  obtain ⟨again, refused, sameLine, _⟩ := kept _ _ _ _ parsePlan_continuedPlan
  rw [← Except.error.inj (moved.symm.trans refused)] at sameLine
  exact absurd sameLine (by decide)

end CuratedHistory
