import CuratedHistory.Proofs.Plan.Parsing

namespace CuratedHistory.PlanParser

/-! A parser that is fed a list of lines goes on with the second half of the list from
where the first half leaves it, and stops at the first line that it refuses. -/

variable {parser : PlanParser} {line index : Nat} {raw : Text} {raws before after : List Text}
  {records : List Record} {error : PlanError}

/-- The parser after lines that are numbered from the given one, refused lines passed over. -/
def afterLines (parser : PlanParser) (line : Nat) : List Text → PlanParser
  | [] => parser
  | raw :: rest => (parser.processLine line raw).2.afterLines (line + 1) rest

theorem processLines_cons_ok {outcome : Option Record}
    (processed : (parser.processLine line raw).1 = .ok outcome) (rest : List Text) :
    parser.processLines line (raw :: rest) =
      (parser.processLine line raw).2.processLines (line + 1) rest := by
  cases step : parser.processLine line raw with
  | mk result next =>
      rw [step] at processed
      simp only at processed
      simp only [processLines, step, processed]

theorem processLines_cons_error (failed : (parser.processLine line raw).1 = .error error)
    (rest : List Text) : parser.processLines line (raw :: rest) = .error error := by
  cases step : parser.processLine line raw with
  | mk result next =>
      rw [step] at failed
      simp only at failed
      simp only [processLines, step, failed]

theorem processLines_append (parser : PlanParser) (line : Nat) (before after : List Text) :
    parser.processLines line (before ++ after) =
      parser.processLines line before >>= fun _ =>
        (parser.afterLines line before).processLines (line + before.length) after := by
  induction before generalizing parser line with
  | nil => rfl
  | cons raw rest ih =>
      cases processed : (parser.processLine line raw).1 with
      | error error =>
          rw [List.cons_append, processLines_cons_error processed, processLines_cons_error processed]
          rfl
      | ok outcome =>
          rw [List.cons_append, processLines_cons_ok processed, processLines_cons_ok processed, ih,
            List.length_cons, Nat.add_right_comm, Nat.add_assoc]
          rfl

theorem processLines_append_of_ok (accepted : parser.processLines line before = .ok records)
    (after : List Text) :
    parser.processLines line (before ++ after) =
      (parser.afterLines line before).processLines (line + before.length) after := by
  rw [processLines_append, accepted]
  rfl

theorem processLines_append_of_error (failed : parser.processLines line before = .error error)
    (after : List Text) : parser.processLines line (before ++ after) = .error error := by
  rw [processLines_append, failed]
  rfl

theorem records_afterLines (accepted : parser.processLines line raws = .ok records) :
    (parser.afterLines line raws).records = records := by
  have whole := processLines_append_of_ok accepted []
  rw [List.append_nil, accepted] at whole
  exact (Except.ok.inj whole).symm

/-- The first line that is refused stands after lines that are accepted one and all. -/
theorem exists_refused_of_processLines (failed : parser.processLines line raws = .error error) :
    ∃ before raw after records, raws = before ++ raw :: after ∧
      parser.processLines line before = .ok records ∧
      ((parser.afterLines line before).processLine (line + before.length) raw).1 = .error error := by
  induction raws generalizing parser line with
  | nil => contradiction
  | cons raw rest ih =>
      cases processed : (parser.processLine line raw).1 with
      | error refusal =>
          rw [processLines_cons_error processed] at failed
          cases failed
          exact ⟨[], raw, rest, parser.records, rfl, rfl, processed⟩
      | ok outcome =>
          rw [processLines_cons_ok processed] at failed
          obtain ⟨before, refused, after, records, split, accepted, stops⟩ := ih failed
          refine ⟨raw :: before, refused, after, records, by rw [split, List.cons_append],
            by rw [processLines_cons_ok processed, accepted], ?_⟩
          rw [List.length_cons, Nat.add_comm before.length, ← Nat.add_assoc]
          exact stops

theorem exists_ok_of_processLines (accepted : parser.processLines line (before ++ raw :: after) = .ok records) :
    ∃ outcome, ((parser.afterLines line before).processLine (line + before.length) raw).1 = .ok outcome := by
  cases first : parser.processLines line before with
  | error error =>
      rw [processLines_append_of_error first] at accepted
      contradiction
  | ok earlier =>
      rw [processLines_append_of_ok first] at accepted
      cases processed : ((parser.afterLines line before).processLine (line + before.length) raw).1 with
      | error error =>
          rw [processLines_cons_error processed] at accepted
          contradiction
      | ok outcome => exact ⟨outcome, rfl⟩

theorem exists_ok_at (accepted : parser.processLines line raws = .ok records)
    (place : raws[index]? = some raw) :
    ∃ outcome, ((parser.afterLines line (raws.take index)).processLine (line + index) raw).1 =
      .ok outcome := by
  obtain ⟨bound, rfl⟩ := List.getElem?_eq_some_iff.mp place
  have cut : raws = raws.take index ++ raws[index] :: raws.drop (index + 1) := by simp
  have length : (raws.take index).length = index := List.length_take_of_le (Nat.le_of_lt bound)
  rw [cut] at accepted
  have outcome := exists_ok_of_processLines accepted
  rwa [length] at outcome

/-- What stands behind a refused line plays no part. -/
theorem processLines_of_same_start {others : List Text}
    (accepted : parser.processLines line before = .ok records)
    (stops : ((parser.afterLines line before).processLine (line + before.length) raw).1 = .error error)
    (same : others.take (before.length + 1) = before ++ [raw]) :
    parser.processLines line others = .error error := by
  have whole : others = before ++ raw :: others.drop (before.length + 1) := by
    conv_lhs => rw [← List.take_append_drop (before.length + 1) others, same]
    simp
  rw [whole, processLines_append_of_ok accepted, processLines_cons_error stops]

theorem Follows.afterLines {range : PlanRange} {resolver : Resolver} {numbered : List (Nat × Directive)}
    (follows : parser.Follows range resolver numbered)
    (accepted : parser.processLines line raws = .ok records) :
    (parser.afterLines line raws).Follows range resolver (numbered ++ directivesFrom line raws) := by
  induction raws generalizing parser line numbered with
  | nil =>
      have noMore : directivesFrom line [] = [] := rfl
      rwa [noMore, List.append_nil]
  | cons raw rest ih =>
      cases read : Directive.ofLine raw with
      | error cause => simp [PlanParser.processLines, processLine, read] at accepted
      | ok outcome =>
          cases outcome with
          | none =>
              rw [directivesFrom_cons_skipped read]
              simp only [PlanParser.processLines, processLine, read] at accepted
              simp only [PlanParser.afterLines, processLine, read]
              exact ih follows accepted
          | some directive =>
              rw [directivesFrom_cons_read read, List.append_cons]
              cases placed : parser.accept line directive with
              | error cause => simp [PlanParser.processLines, processLine, read, placed] at accepted
              | ok entry =>
                  obtain ⟨position, record⟩ := entry
                  simp only [PlanParser.processLines, processLine, read, placed] at accepted
                  simp only [PlanParser.afterLines, processLine, read, placed]
                  exact ih (follows.push (accept_eq_ok_iff.mp placed) read) accepted

/-- The records of an accepted plan are those of a parser whose context agrees with them. -/
theorem exists_consistent {range : PlanRange} {resolver : Resolver} {text : Text}
    (accepted : parsePlan range resolver text = .ok records) :
    ∃ parser : PlanParser, parser.Consistent range ∧ parser.records = records :=
  ⟨_, ((start_follows range resolver).afterLines accepted).consistent, records_afterLines accepted⟩

end CuratedHistory.PlanParser
