import CuratedHistory.Proofs.Plan.Annotation
import CuratedHistory.Proofs.Plan.FirstRefusal
import CuratedHistory.Proofs.Text.Decimal

namespace CuratedHistory

/-! Comments on errors that take the place of earlier ones, over any number of rounds. The
comments are always those on the last error. Each round also takes a carriage return from
the end of each other line, so the plan stays as it is only if no line ends in one. -/

variable {line text : Text} {error last : PlanError} {earlier : List PlanError} {cause : Refusal}

/-- The texts that an error is about. -/
def Refusal.texts : Refusal → List Text
  | .unknownAction keyword => [keyword]
  | .invalidHash hash | .unknownCommit hash | .ambiguousCommit hash => [hash]
  | .unexpectedText text => [text]
  | .notInRange commit | .duplicate commit => [commit]
  | .orderViolation commit previous => [commit, previous]
  | .missingHash | .labelNotAllowed _ | .missingSectionLabel => []

/-- No line feed stands in the refused line, or in what is said of it. -/
def PlanError.OneLine (error : PlanError) : Prop :=
  ∀ text ∈ error.text :: error.cause.texts, '\n' ∉ text

/-- The lines of a text that are no comments on errors. -/
def planLines (text : Text) : List Text :=
  (Text.lines text).filter fun line => !isErrorComment line

/-- No line of the plan ends in a carriage return, beside the one that may belong to its end. -/
def Settled (text : Text) : Prop :=
  ∀ line ∈ planLines text, line.getLast? ≠ some '\r'

theorem stripErrorComments_eq (text : Text) : stripErrorComments text = unlines (planLines text) :=
  rfl

theorem newline_notMem_planLines (text : Text) : ∀ line ∈ planLines text, '\n' ∉ line :=
  fun line member => Text.newline_notMem_of_mem_lines text line (List.mem_of_mem_filter member)

/-! The two comments on an error -/

theorem newline_notMem_message (oneLine : ∀ text ∈ cause.texts, '\n' ∉ text) : '\n' ∉ cause.message := by
  have keyword (action : Action) : '\n' ∉ action.keyword := by
    cases action <;> exact Text.notMem_literal (by decide)
  have framed {before after : List Char} {field : Text} (unbroken : '\n' ∉ before) (inner : '\n' ∉ field)
      (unbrokenToo : '\n' ∉ after) :
      '\n' ∉ (String.ofList before).toList ++ field ++ (String.ofList after).toList :=
    List.not_mem_append (List.not_mem_append (Text.notMem_literal unbroken) inner)
      (Text.notMem_literal unbrokenToo)
  cases cause with
  | missingHash => exact Text.notMem_literal (by decide)
  | missingSectionLabel => exact Text.notMem_literal (by decide)
  | labelNotAllowed action => exact framed (by decide) (keyword action) (by decide)
  | orderViolation commit previous =>
      have fields : '\n' ∉ commit ∧ '\n' ∉ previous := by simpa [Refusal.texts] using oneLine
      have start : '\n' ∉ "order violation: ".toList ++ commit ++ " comes before ".toList :=
        framed (by decide) fields.1 (by decide)
      exact List.not_mem_append (List.not_mem_append start fields.2) (Text.notMem_literal (by decide))
  | duplicate commit =>
      have field := oneLine commit List.mem_cons_self
      exact List.not_mem_append (Text.notMem_literal (by decide)) field
  | unknownAction field | invalidHash field | unexpectedText field | unknownCommit field
  | ambiguousCommit field | notInRange field =>
      exact framed (by decide) (oneLine field List.mem_cons_self) (by decide)

theorem newline_notMem_errorComments (oneLine : error.OneLine) :
    ∀ comment ∈ errorComments error, '\n' ∉ comment := by
  rw [PlanError.OneLine, List.forall_mem_cons] at oneLine
  have digits : '\n' ∉ Decimal.digits error.line :=
    fun member => absurd (Decimal.isDigit_of_mem member) (by decide)
  have trimmed : '\n' ∉ Text.trim error.text :=
    fun member => oneLine.1 ((Text.trim_isInfix error.text).sublist.subset member)
  have message := newline_notMem_message oneLine.2
  have marker : '\n' ∉ errorMarker := Text.notMem_literal (by decide)
  have first : '\n' ∉ " line ".toList := Text.notMem_literal (by decide)
  have second : '\n' ∉ "   ".toList := Text.notMem_literal (by decide)
  have colon : '\n' ∉ ": ".toList := Text.notMem_literal (by decide)
  simp only [errorComments, List.forall_mem_cons, List.mem_nil_iff, false_implies, implies_true,
    and_true, List.mem_append, not_or]
  exact ⟨⟨⟨⟨⟨marker, first⟩, digits⟩, colon⟩, message⟩, ⟨marker, second⟩, trimmed⟩

theorem isErrorComment_append (rest : Text) : isErrorComment (errorMarker ++ rest) = true := by
  have solid : isBlank '#' = false := by decide
  have start : Text.trimStart (errorMarker ++ rest) = errorMarker ++ rest :=
    Text.trimStart_eq_self (by rintro c ⟨rfl⟩; exact solid)
  rw [isErrorComment, start, List.isPrefixOf_iff_prefix]
  exact List.prefix_append errorMarker rest

theorem isErrorComment_errorComments (error : PlanError) :
    ∀ comment ∈ errorComments error, isErrorComment comment = true := by
  simp only [errorComments, List.append_assoc, List.forall_mem_cons, List.mem_nil_iff, false_implies,
    implies_true, and_true]
  exact ⟨isErrorComment_append _, isErrorComment_append _⟩

/-- A carriage return at the end of a line says nothing about whether it is a comment. -/
theorem isErrorComment_withoutReturn (line : Text) :
    isErrorComment (Text.withoutReturn line) = isErrorComment line := by
  unfold Text.withoutReturn
  split
  · rename_i isReturn
    obtain ⟨before, rfl⟩ := List.getLast?_eq_some_iff.mp isReturn
    have noMarker : errorMarker ≠ Text.trimStart before ++ ['\r'] := by
      intro same
      have inside : '\r' ∈ errorMarker := same ▸ List.mem_concat_self
      exact absurd inside (by decide)
    rw [List.dropLast_concat, Bool.eq_iff_iff, isErrorComment, isErrorComment, Text.trimStart_append,
      List.isPrefixOf_iff_prefix, List.isPrefixOf_iff_prefix]
    split
    · rename_i nothing
      rw [List.isEmpty_iff.mp nothing]
      decide
    · rw [List.prefix_concat_iff, or_iff_right noMarker]
  · rfl

/-! One round, and any number of them -/

/-- The comments that a round adds are the last lines. The others have lost a carriage return each. -/
theorem lines_annotated (oneLine : error.OneLine) (text : Text) :
    Text.lines (withErrorComments text error) =
      (planLines text).map Text.withoutReturn ++ (errorComments error).map Text.withoutReturn := by
  rw [lines_withErrorComments, Text.lines_unlines (newline_notMem_errorComments oneLine), planLines]

theorem filter_planLines_worn (text : Text) :
    ((planLines text).map Text.withoutReturn).filter (fun line => !isErrorComment line) =
      (planLines text).map Text.withoutReturn := by
  rw [List.filter_eq_self, List.forall_mem_map]
  intro line member
  rw [isErrorComment_withoutReturn]
  exact (List.mem_filter.mp member).2

theorem planLines_stripped (text : Text) :
    planLines (stripErrorComments text) = (planLines text).map Text.withoutReturn := by
  rw [planLines, stripErrorComments_eq, Text.lines_unlines (newline_notMem_planLines text),
    filter_planLines_worn]

theorem planLines_annotated (oneLine : error.OneLine) (text : Text) :
    planLines (withErrorComments text error) = (planLines text).map Text.withoutReturn := by
  have dropped : ((errorComments error).map Text.withoutReturn).filter (fun line => !isErrorComment line) =
      [] := by
    rw [List.filter_eq_nil_iff, List.forall_mem_map]
    intro comment member
    rw [isErrorComment_withoutReturn, isErrorComment_errorComments error comment member]
    decide
  rw [planLines, lines_annotated oneLine, List.filter_append, filter_planLines_worn, dropped, List.append_nil]

theorem planLines_foldl (oneLine : ∀ error ∈ earlier, error.OneLine) (text : Text) :
    planLines (earlier.foldl withErrorComments text) =
      (planLines text).map Text.withoutReturn^[earlier.length] := by
  induction earlier generalizing text with
  | nil => rw [List.foldl_nil, List.length_nil, Function.iterate_zero, List.map_id]
  | cons error rest ih =>
      rw [List.forall_mem_cons] at oneLine
      rw [List.foldl_cons, ih oneLine.2, planLines_annotated oneLine.1, List.map_map,
        List.length_cons, Function.iterate_succ]

/-- Lines that lose a carriage return each, once or more often, stay as they are only if none
of them has one. -/
theorem unlines_worn_eq_iff (count : Nat) :
    unlines ((planLines text).map Text.withoutReturn^[count + 1]) = unlines (planLines text) ↔
      Settled text := by
  have unbroken := newline_notMem_planLines text
  have worn : ∀ line ∈ (planLines text).map Text.withoutReturn^[count + 1], '\n' ∉ line := by
    rw [List.forall_mem_map]
    intro line member feed
    have inside : ∀ (count : Nat) (line : Text), '\n' ∈ Text.withoutReturn^[count] line → '\n' ∈ line := by
      intro count
      induction count with
      | zero => exact fun _ => id
      | succ count ih => exact fun line feed => Text.mem_of_mem_withoutReturn (ih _ feed)
    exact unbroken line member (inside _ line feed)
  have pointwise : (planLines text).map Text.withoutReturn^[count + 1] = planLines text ↔ Settled text := by
    nth_rewrite 2 [← List.map_id (planLines text)]
    rw [List.map_inj_left]
    exact forall₂_congr fun line _ => Text.iterate_withoutReturn_eq_self_iff count
  rw [← pointwise]
  exact ⟨fun same => Text.unlines_injective worn unbroken same, fun same => by rw [same]⟩

/-! The errors that parsing gives -/

theorem newline_notMem_lower (unbroken : '\n' ∉ text) : '\n' ∉ Text.lower text := by
  intro feed
  obtain ⟨c, member, lowered⟩ := List.mem_map.mp feed
  rw [Char.toLower] at lowered
  split at lowered
  · rename_i upper
    -- a letter that is made small is one of `a` to `z`
    have code : (c.val.toNat + 32) % 2 ^ 32 = 10 := congrArg Char.toNat lowered
    have letter : 65 ≤ c.val.toNat ∧ c.val.toNat ≤ 90 := upper
    omega
  · exact unbroken (lowered ▸ member)

namespace Directive

variable {raw rest : Text}

theorem texts_of_readHash (failed : readHash rest = .error cause) : ∀ text ∈ cause.texts, text ⊆ rest := by
  unfold readHash at failed
  split at failed
  · rw [← Except.error.inj failed]
    exact List.forall_mem_nil _
  · split at failed
    · rw [← Except.error.inj failed]
      exact List.forall_mem_nil _
    · simp only at failed
      split at failed
      · contradiction
      · rw [← Except.error.inj failed, Refusal.texts, List.forall_mem_singleton]
        exact (List.takeWhile_prefix _).subset

/-- What is said of a line that cannot be read is taken from the line. -/
theorem texts_of_ofLine (unread : ofLine raw = .error cause) : ∀ text ∈ cause.texts, text ⊆ raw := by
  have failed := ofTrimmed_of_ofLine_error unread
  have trimmed : Text.trim raw ⊆ raw := (Text.trim_isInfix raw).sublist.subset
  have back : (Text.splitAtFirst isBlank (Text.trim raw)).2 ⊆ raw :=
    List.Subset.trans (List.dropWhile_suffix _).subset trimmed
  have started : Text.trimStart (Text.splitAtFirst isBlank (Text.trim raw)).2 ⊆ raw :=
    List.Subset.trans (List.dropWhile_suffix _).subset back
  simp only [ofTrimmed, bind_eq_error_iff] at failed
  rcases failed with noAction | ⟨action, _, noHash | ⟨hashed, read, noTail | ⟨_, _, impossible⟩⟩⟩
  · rw [readAction_eq_error noAction, Refusal.texts, List.forall_mem_singleton]
    exact List.Subset.trans (List.takeWhile_prefix _).subset trimmed
  · exact fun text member => List.Subset.trans (texts_of_readHash noHash text member) started
  · rw [readTail_eq_error noTail, Refusal.texts, List.forall_mem_singleton]
    refine List.Subset.trans (Text.trim_isInfix hashed.2).sublist.subset (List.Subset.trans ?_ started)
    rw [(readHash_eq_ok read).1]
    exact List.subset_append_right _ _
  · contradiction

end Directive

namespace PlanParser

variable {range : PlanRange} {parser : PlanParser} {directive : Directive} {raw : Text}

theorem Refused.oneLine (refused : parser.Refused directive cause) (consistent : parser.Consistent range)
    (members : ∀ commit ∈ range.members, '\n' ∉ commit)
    (resolved : ∀ hash commit, parser.resolver hash = .ok commit → '\n' ∉ commit)
    (written : '\n' ∉ directive.hash) : ∀ text ∈ cause.texts, '\n' ∉ text := by
  have found {commit : Text} (named : directive.commit? parser.resolver = some commit) : '\n' ∉ commit := by
    obtain ⟨full, lookup, rfl⟩ := Directive.commit?_eq_some_iff.mp named
    exact newline_notMem_lower (resolved _ _ lookup)
  cases refused with
  | unknownCommit lookup => exact List.forall_mem_singleton.mpr written
  | ambiguousCommit lookup => exact List.forall_mem_singleton.mpr written
  | notInRange named outside => exact List.forall_mem_singleton.mpr (found named)
  | duplicate named seen => exact List.forall_mem_singleton.mpr (found named)
  | orderViolation named place fresh last notLater =>
      obtain ⟨record, _, _, lastPlace⟩ := consistent.last_some _ _ last
      have previous := members _ (PlanRange.mem_of_position? lastPlace)
      exact List.forall_mem_cons.mpr ⟨found named, List.forall_mem_singleton.mpr previous⟩
  | labelNotAllowed labelled bare => exact List.forall_mem_nil _
  | missingSectionLabel bundled blank first => exact List.forall_mem_nil _

end PlanParser

/-- The errors that parsing gives are of one line, as long as the names of commits are. -/
theorem PlanError.oneLine_of_parsePlan {range : PlanRange} {resolver : Resolver}
    (members : ∀ commit ∈ range.members, '\n' ∉ commit)
    (resolved : ∀ hash commit, resolver hash = .ok commit → '\n' ∉ commit)
    (failed : parsePlan range resolver text = .error error) : error.OneLine := by
  obtain ⟨before, raw, after, records, split, accepted, stops⟩ :=
    PlanParser.exists_refused_of_processLines failed
  obtain ⟨_, rfl, found⟩ := PlanParser.processLine_eq_error stops
  have unbroken : '\n' ∉ error.text :=
    Text.newline_notMem_of_mem_lines text _ (by rw [split]; simp)
  refine List.forall_mem_cons.mpr ⟨unbroken, ?_⟩
  rcases found with unread | ⟨directive, read, refused⟩
  · exact fun text member feed => unbroken (Directive.texts_of_ofLine unread text member feed)
  · have follows := (PlanParser.start_follows range resolver).afterLines accepted
    obtain ⟨written, inside, _, isHash⟩ := Directive.hashOn_of_ofLine read
    refine refused.oneLine follows.consistent members ?_ ?_
    · rwa [follows.resolver_eq]
    · rw [isHash]
      exact newline_notMem_lower fun feed => unbroken (inside.sublist.subset feed)

/-- However many rounds there were, the comments are those on the last error, two lines at the
end and no other. The plan in front has lost as many carriage returns at the end of each line as
there were rounds before the last one, if it had them. So the rounds come to the last one alone,
and the plan without its comments is what it was, exactly if no line of it ends in one. -/
theorem comments_replaced_iff_settled (oneLine : ∀ error ∈ earlier ++ [last], error.OneLine) (text : Text) :
    let annotated := (earlier ++ [last]).foldl withErrorComments text
    annotated = unlines ((planLines text).map Text.withoutReturn^[earlier.length]) ++
        unlines (errorComments last) ∧
      Text.lines annotated = planLines annotated ++ (errorComments last).map Text.withoutReturn ∧
      (errorComments last).length = 2 ∧
      (∀ comment ∈ (errorComments last).map Text.withoutReturn, isErrorComment comment = true) ∧
      (∀ line ∈ planLines annotated, isErrorComment line = false) ∧
      (annotated = withErrorComments text last ↔ earlier = [] ∨ Settled text) ∧
      (stripErrorComments annotated = stripErrorComments text ↔ Settled text) ∧
      (stripErrorComments (stripErrorComments text) = stripErrorComments text ↔ Settled text) ∧
      ∀ (range : PlanRange) (resolver : Resolver) (error : PlanError),
        (∀ commit ∈ range.members, '\n' ∉ commit) →
        (∀ hash commit, resolver hash = .ok commit → '\n' ∉ commit) →
        parsePlan range resolver text = .error error → error.OneLine := by
  rw [List.forall_mem_append, List.forall_mem_singleton] at oneLine
  have before := planLines_foldl oneLine.1 text
  have after : planLines ((earlier ++ [last]).foldl withErrorComments text) =
      (planLines text).map Text.withoutReturn^[earlier.length + 1] := by
    rw [List.foldl_concat, planLines_annotated oneLine.2, before, List.map_map,
      ← Function.iterate_succ']
  have shape : (earlier ++ [last]).foldl withErrorComments text =
      unlines ((planLines text).map Text.withoutReturn^[earlier.length]) ++
        unlines (errorComments last) := by
    rw [List.foldl_concat, withErrorComments, stripErrorComments_eq, before]
  refine ⟨shape, ?_, rfl, ?_, ?_, ?_, ?_, ?_, ?_⟩
  · rw [List.foldl_concat, lines_annotated oneLine.2, planLines_annotated oneLine.2]
  · rw [List.forall_mem_map]
    intro comment member
    rw [isErrorComment_withoutReturn, isErrorComment_errorComments last comment member]
  · intro line member
    simpa using (List.mem_filter.mp member).2
  · rw [shape, withErrorComments, stripErrorComments_eq, List.append_left_inj]
    cases earlier with
    | nil => simp
    | cons error rest => rw [List.length_cons, unlines_worn_eq_iff]; simp
  · rw [stripErrorComments_eq, stripErrorComments_eq, after, unlines_worn_eq_iff]
  · have again : planLines (stripErrorComments text) = (planLines text).map Text.withoutReturn^[0 + 1] :=
      planLines_stripped text
    rw [stripErrorComments_eq (stripErrorComments text), again, stripErrorComments_eq,
      unlines_worn_eq_iff]
  · exact fun range resolver error members resolved failed =>
      PlanError.oneLine_of_parsePlan members resolved failed

/-- A plan whose first line ends in two carriage returns, and what parsing says of it. -/
def returnedPlan : Text :=
  "pick aaaaaaa\r\r\nbundle bbbbbbb\n".toList

def returnedError : PlanError where
  line := 2
  text := "bundle bbbbbbb".toList
  cause := .missingSectionLabel

theorem returnedError_oneLine : ∀ error ∈ [returnedError] ++ [returnedError], error.OneLine := by
  have unbroken : '\n' ∉ returnedError.text := Text.notMem_literal (by decide)
  have oneLine : returnedError.OneLine := List.forall_mem_singleton.mpr unbroken
  simpa using oneLine

/-- Two rounds over the plan leave it two lines of comments, and a carriage return short. -/
theorem returnedPlan_comments_replaced :
    parsePlan bundleRange bundleRange.resolver returnedPlan = .error returnedError ∧
      (∀ error ∈ [returnedError] ++ [returnedError], error.OneLine) ∧
      ¬ Settled returnedPlan ∧
      ([returnedError] ++ [returnedError]).foldl withErrorComments returnedPlan =
        unlines ["pick aaaaaaa".toList, "bundle bbbbbbb".toList] ++ unlines (errorComments returnedError) := by
  have parsed : parsePlan bundleRange bundleRange.resolver returnedPlan = .error returnedError := by
    decide +kernel
  have unsettled : ¬ Settled returnedPlan := by
    intro settled
    have first : "pick aaaaaaa\r".toList ∈ planLines returnedPlan := by decide +kernel
    exact settled _ first (by decide)
  have worn : (planLines returnedPlan).map Text.withoutReturn^[1] =
      ["pick aaaaaaa".toList, "bundle bbbbbbb".toList] := by
    decide +kernel
  refine ⟨parsed, returnedError_oneLine, unsettled, ?_⟩
  rw [← worn]
  exact (comments_replaced_iff_settled returnedError_oneLine returnedPlan).1

/-- Rounds of comments do not always come to the last one alone. -/
theorem exists_worn_return :
    ¬ ∀ (text : Text) (earlier : List PlanError) (last : PlanError),
      (∀ error ∈ earlier ++ [last], error.OneLine) →
        (earlier ++ [last]).foldl withErrorComments text = withErrorComments text last := by
  intro replaced
  have same := replaced returnedPlan [returnedError] returnedError returnedError_oneLine
  exact absurd same (by decide +kernel)

end CuratedHistory
