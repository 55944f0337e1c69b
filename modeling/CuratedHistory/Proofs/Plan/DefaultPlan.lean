import CuratedHistory.History.Commit
import CuratedHistory.Plan.Block
import CuratedHistory.Plan.Template
import CuratedHistory.Proofs.Plan.Parsing
import CuratedHistory.Proofs.Plan.Reading
import CuratedHistory.Proofs.Text.Lines

namespace CuratedHistory

/-! The default plan parses back. Each of its lines picks a commit, whatever stands in the
subject that is written behind the hash, and its help reads as nothing at all. -/

namespace Directive

variable {hash subject : Text}

theorem isHash_of_isFullHash (full : isFullHash hash = true) : isHash hash = true := by
  rw [isFullHash, Bool.and_eq_true, beq_iff_eq] at full
  rw [isHash, full.1, full.2]
  rfl

/-- The directive on the line that picks a commit. -/
def pickOf (hash subject : Text) : Directive where
  action := .pick
  hash := Text.lower hash
  label := none
  message := Text.nonBlank? subject

/-- What stands behind the hash on such a line. -/
def pickTail (subject : Text) : Text :=
  match Text.nonBlank? subject with
  | some subject => " # ".toList ++ subject
  | none => []

theorem pickLine_eq (hash subject : Text) :
    pickLine hash subject = "pick".toList ++ ([' '] ++ (hash ++ pickTail subject)) := by
  unfold pickLine pickTail
  cases Text.nonBlank? subject <;> simp

theorem pickTail_head (subject : Text) : ∀ c ∈ (pickTail subject).head?, endsHash c = true := by
  unfold pickTail
  cases Text.nonBlank? subject <;> simp [endsHash, isBlank]

theorem readTail_pickTail (subject : Text) :
    readTail (Text.trim (pickTail subject)) = .ok (none, Text.nonBlank? subject) := by
  unfold pickTail
  cases kept : Text.nonBlank? subject with
  | none => rfl
  | some message =>
      -- The hash sign comes first, so that signs of any kind behind it belong to the message.
      have trimmed := Text.nonBlank?_trimmed kept
      have behindSign : Text.Trimmed ("# ".toList ++ message) :=
        trimmed.append (by decide) (by simp [isBlank])
      have apart : " # ".toList ++ message = [' '] ++ ("# ".toList ++ message) := rfl
      simp only
      rw [apart, Text.trim_blank_append (by simp [isBlank]), behindSign.trim_eq]
      have read : Text.nonBlank? ([' '] ++ message) = some message := by
        rw [Text.nonBlank?_blank_append (by simp [isBlank]), trimmed.nonBlank?_eq]
      exact congrArg (fun text => Except.ok (none, text)) read

theorem pickLine_trimmed (isHash : isHash hash = true) (subject : Text) :
    (pickLine hash subject).Trimmed := by
  unfold pickLine
  cases kept : Text.nonBlank? subject with
  | none => exact (trimmed_of_isHash isHash).append (by decide) (by simp [isBlank])
  | some message => exact (Text.nonBlank?_trimmed kept).append (by simp) (by simp [isBlank])

theorem ofLine_pickLine (isHash : isHash hash = true) (subject : Text) :
    ofLine (pickLine hash subject) = .ok (some (pickOf hash subject)) := by
  have named : Action.named? "pick".toList = some .pick := rfl
  have unbroken : ∀ c ∈ "pick".toList, isBlank c = false := by simp [isBlank]
  have blank : ∀ c ∈ [' '], isBlank c = true := by simp [isBlank]
  rw [ofLine_of_trimmed (pickLine_trimmed isHash subject) (by simp [pickLine_eq]), pickLine_eq,
    ofTrimmed_append named unbroken (List.cons_ne_nil _ _) blank isHash (pickTail_head subject)
      (readTail_pickTail subject)]
  rfl

theorem newline_notMem_pickLine (isHash : isHash hash = true) (unbroken : '\n' ∉ subject) :
    '\n' ∉ pickLine hash subject := by
  have inHash := newline_notMem_of_isHash isHash
  have inTail : '\n' ∉ pickTail subject := by
    unfold pickTail
    cases kept : Text.nonBlank? subject with
    | none => simp
    | some message =>
        have inside := (Text.nonBlank?_isInfix kept).sublist.subset
        simpa using fun feed => unbroken (inside feed)
  rw [pickLine_eq]
  simp [inHash, inTail]

end Directive

/-! The lines of the plan. -/

variable {α : Type} {line : Nat} {raws before after : List Text} {commits : List (Text × Text)}

theorem directivesFrom_append :
    directivesFrom line (before ++ after) =
      directivesFrom line before ++ directivesFrom (line + before.length) after := by
  simp [directivesFrom, List.zipIdx_append]

theorem directivesFrom_of_skipped (skipped : ∀ raw ∈ raws, Directive.ofLine raw = .ok none) :
    directivesFrom line raws = [] := by
  induction raws generalizing line with
  | nil => rfl
  | cons raw rest ih =>
      rw [List.forall_mem_cons] at skipped
      rw [PlanParser.directivesFrom_cons_skipped skipped.1, ih skipped.2]

theorem directivesFrom_map {entries : List α} {write : α → Text} {directive : α → Directive}
    (read : ∀ entry ∈ entries, Directive.ofLine (write entry) = .ok (some (directive entry))) :
    directivesFrom line (entries.map write) =
      entries.mapIdx fun index entry => (line + index, directive entry) := by
  induction entries generalizing line with
  | nil => rfl
  | cons entry rest ih =>
      rw [List.forall_mem_cons] at read
      rw [List.map_cons, PlanParser.directivesFrom_cons_read read.1, ih read.2, List.mapIdx_cons]
      simp only [Nat.add_assoc, Nat.add_comm 1, Nat.add_zero]

theorem ofLine_comment_literal (characters : Text) :
    Directive.ofLine (String.ofList ('#' :: characters)).toList = .ok none := by
  have sign : isBlank '#' = false := by decide
  apply Directive.ofLine_comment
  rw [String.toList_ofList, Text.trim, Text.trimStart_eq_self (by simpa using sign), Text.trimEnd_cons sign,
    List.head?_cons]

/-- Each line of the help is blank or a comment. -/
theorem ofLine_help : ∀ raw ∈ Text.lines ('\n' :: planHelp), Directive.ofLine raw = .ok none := by
  have worn (raw : Text) : Directive.ofLine (Text.withoutReturn raw) = Directive.ofLine raw :=
    Directive.ofLine_of_trim_eq (Text.trim_withoutReturn raw)
  -- Only the first character of each line is looked at, and no line is taken apart.
  rw [Text.lines, planHelp, Text.lines_unlines]
  · simp only [List.map_cons, List.map_nil, List.forall_mem_cons, List.mem_nil_iff, false_implies,
      implies_true, worn, and_true]
    refine ⟨rfl, ?_, ?_, ?_, ?_, ?_, ?_, ?_, ?_, ?_, ?_⟩ <;> exact ofLine_comment_literal _
  · simp only [List.map_cons, List.map_nil, List.forall_mem_cons, List.mem_nil_iff, false_implies,
      implies_true, and_true]
    refine ⟨?_, ?_, ?_, ?_, ?_, ?_, ?_, ?_, ?_, ?_⟩ <;> exact Text.notMem_literal (by decide)

/-- The commits of a default plan, by full hash in lower case and by subject: no two are one,
and each is found by its hash. -/
structure Listed (resolver : Resolver) (commits : List (Text × Text)) : Prop where
  full : ∀ commit ∈ commits, isFullHash commit.1 = true
  lower : ∀ commit ∈ commits, Text.lower commit.1 = commit.1
  resolved : ∀ commit ∈ commits, resolver commit.1 = .ok commit.1
  oneLine : ∀ commit ∈ commits, '\n' ∉ commit.2
  distinct : (commits.map Prod.fst).Nodup

namespace Listed

variable {resolver : Resolver}

theorem isHash (listed : Listed resolver commits) :
    ∀ commit ∈ commits, Directive.isHash commit.1 = true :=
  fun commit member => Directive.isHash_of_isFullHash (listed.full commit member)

theorem lines_eq (listed : Listed resolver commits) :
    Text.lines (defaultPlan commits) =
      (commits.map fun commit => Text.withoutReturn (pickLine commit.1 commit.2)) ++
        Text.lines ('\n' :: planHelp) := by
  have unbroken : ∀ raw ∈ commits.map fun commit => pickLine commit.1 commit.2, '\n' ∉ raw := by
    intro raw member
    obtain ⟨commit, inside, rfl⟩ := List.mem_map.mp member
    exact Directive.newline_notMem_pickLine (listed.isHash commit inside) (listed.oneLine commit inside)
  rw [defaultPlan, Text.lines_unlines_append unbroken, List.map_map]
  rfl

theorem ofLine_eq (listed : Listed resolver commits) :
    ∀ commit ∈ commits, Directive.ofLine (Text.withoutReturn (pickLine commit.1 commit.2)) =
      .ok (some (Directive.pickOf commit.1 commit.2)) := by
  intro commit member
  rw [Directive.ofLine_of_trim_eq (Text.trim_withoutReturn _),
    Directive.ofLine_pickLine (listed.isHash commit member)]

theorem wellWritten (listed : Listed resolver commits) :
    WellWritten (Text.lines (defaultPlan commits)) := by
  rw [listed.lines_eq, WellWritten, List.forall_mem_append]
  constructor
  · intro raw member cause
    obtain ⟨commit, inside, rfl⟩ := List.mem_map.mp member
    simp [listed.ofLine_eq commit inside]
  · intro raw member cause
    simp [ofLine_help raw member]

theorem planDirectives_eq (listed : Listed resolver commits) :
    planDirectives (defaultPlan commits) =
      commits.mapIdx fun index commit => (1 + index, Directive.pickOf commit.1 commit.2) := by
  rw [planDirectives, listed.lines_eq, directivesFrom_append, directivesFrom_map listed.ofLine_eq,
    directivesFrom_of_skipped ofLine_help, List.append_nil]

theorem directives_eq (listed : Listed resolver commits) :
    (planDirectives (defaultPlan commits)).map Prod.snd =
      commits.map fun commit => Directive.pickOf commit.1 commit.2 := by
  rw [listed.planDirectives_eq]
  refine List.ext_getElem? fun index => ?_
  simp [Function.comp_def]

theorem commit?_eq (listed : Listed resolver commits) :
    ∀ commit ∈ commits,
      (Directive.pickOf commit.1 commit.2).commit? resolver = some commit.1 := by
  intro commit member
  have small := listed.lower commit member
  refine Directive.commit?_eq_some_iff.mpr ⟨commit.1, ?_, small⟩
  rw [Directive.pickOf, small]
  exact listed.resolved commit member

theorem members_eq (listed : Listed resolver commits) :
    (PlanRange.ofHashes (commits.map Prod.fst)).members = commits.map Prod.fst := by
  refine PlanRange.members_ofHashes listed.distinct ?_
  intro hash member
  obtain ⟨commit, inside, rfl⟩ := List.mem_map.mp member
  exact listed.lower commit inside

theorem position?_eq (listed : Listed resolver commits) {index : Nat} (bound : index < commits.length) :
    (Directive.pickOf commits[index].1 commits[index].2).position?
      (.ofHashes (commits.map Prod.fst)) resolver = some index := by
  rw [Directive.position?, listed.commit?_eq _ (List.getElem_mem bound), Option.bind_some]
  have distinct := listed.distinct
  rw [← listed.members_eq] at distinct
  have inside : index < (PlanRange.ofHashes (commits.map Prod.fst)).members.length := by
    rwa [listed.members_eq, List.length_map]
  have placed := PlanRange.position?_getElem distinct inside
  simpa only [listed.members_eq, List.getElem_map] using placed

theorem acceptable (listed : Listed resolver commits) :
    Acceptable (.ofHashes (commits.map Prod.fst)) resolver
      (commits.map fun commit => Directive.pickOf commit.1 commit.2) where
  selected := by
    intro directive member
    obtain ⟨commit, inside, rfl⟩ := List.mem_map.mp member
    obtain ⟨full, resolved, same⟩ :=
      Directive.commit?_eq_some_iff.mp (listed.commit?_eq commit inside)
    refine ⟨full, resolved, ?_⟩
    rw [same, listed.members_eq]
    exact List.mem_map_of_mem inside
  increasing := by
    refine List.pairwise_iff_getElem.mpr fun first second firstBound secondBound less => ?_
    rw [List.length_map] at firstBound secondBound
    rw [List.getElem_map, List.getElem_map]
    exact ⟨first, second, listed.position?_eq firstBound, listed.position?_eq secondBound, less⟩
  unlabelled := by
    intro directive member _
    obtain ⟨commit, _, rfl⟩ := List.mem_map.mp member
    rfl
  opened := by
    intro before directive after split bundled
    have member : directive ∈ commits.map fun commit => Directive.pickOf commit.1 commit.2 := by
      simp [split]
    obtain ⟨commit, _, rfl⟩ := List.mem_map.mp member
    contradiction

end Listed

/-- The records of a default plan. -/
def pickRecords (commits : List (Text × Text)) : List Record :=
  commits.mapIdx fun index commit => {
    line := index + 1, action := .pick, commit := commit.1, reason := none, sectionLabel := none
    message := Text.nonBlank? commit.2 }

theorem Record.Describes.eq_pick {resolver : Resolver} {upTo : List Directive} {directive : Directive}
    {record : Record} {commit : Text} (described : record.Describes resolver upTo line directive)
    (picks : directive.action = .pick) (named : directive.commit? resolver = some commit) :
    record = {
      line, action := .pick, commit, reason := none, sectionLabel := none
      message := directive.message } := by
  have same := described.commit
  rw [named, Option.some.injEq] at same
  have kept : record.reason = none := by
    refine Option.eq_none_iff_forall_ne_some.mpr fun reason found => ?_
    have dropped := ((described.reason reason).mp found).1
    rw [picks] at dropped
    contradiction
  have apart : record.sectionLabel = none := by
    by_contra labelled
    have bundled := described.bundled.mp labelled
    rw [picks] at bundled
    contradiction
  have action := described.action.trans picks
  cases record
  rw [Record.mk.injEq]
  exact ⟨described.line, action, same.symm, kept, apart, described.message⟩

theorem RecordsOf.eq_pickRecords {resolver : Resolver} {records : List Record}
    (listed : Listed resolver commits)
    (matched : RecordsOf resolver (planDirectives (defaultPlan commits)) records) :
    records = pickRecords commits := by
  have length := matched.length
  rw [listed.planDirectives_eq, List.length_mapIdx] at length
  refine List.ext_getElem (by simp [length, pickRecords]) fun index inRecords _ => ?_
  have bound : index < commits.length := by rwa [← length]
  have isNumbered : (planDirectives (defaultPlan commits))[index]? =
      some (1 + index, Directive.pickOf commits[index].1 commits[index].2) := by
    rw [listed.planDirectives_eq]
    simp [bound]
  have described := matched.describes index _ _ _ isNumbered (List.getElem?_eq_getElem inRecords)
  rw [described.eq_pick rfl (listed.commit?_eq _ (List.getElem_mem bound))]
  simp [pickRecords, Directive.pickOf, Nat.add_comm]

theorem parsePlan_of_listed {resolver : Resolver} (listed : Listed resolver commits) :
    parsePlan (.ofHashes (commits.map Prod.fst)) resolver (defaultPlan commits) =
      .ok (pickRecords commits) := by
  have outcome := (PlanParser.start_follows (.ofHashes (commits.map Prod.fst)) resolver).processLines 1
    (Text.lines (defaultPlan commits))
  cases parsed : parsePlan (.ofHashes (commits.map Prod.fst)) resolver (defaultPlan commits) with
  | error error =>
      rw [parsePlan] at parsed
      simp only [parsed, List.nil_append] at outcome
      refine absurd ⟨listed.wellWritten, ?_⟩ outcome
      rw [← planDirectives, listed.directives_eq]
      exact listed.acceptable
  | ok records =>
      rw [parsePlan] at parsed
      simp only [parsed, List.nil_append] at outcome
      rw [RecordsOf.eq_pickRecords listed outcome.2.2]

/-- Picks join with nothing, so that each is a block of its own. -/
theorem foldl_add_picks {records : List Record} (picks : ∀ record ∈ records, record.action = .pick)
    (blocks : List Block) :
    records.foldl Grouping.add { blocks, openRun := none } =
      { blocks := blocks ++ records.map .single, openRun := none } := by
  induction records generalizing blocks with
  | nil => simp
  | cons record rest ih =>
      rw [List.forall_mem_cons] at picks
      have added : Grouping.add { blocks, openRun := none } record =
          { blocks := blocks ++ [.single record], openRun := none } := by
        simp only [Grouping.add, Grouping.start, picks.1, Grouping.closed]
      rw [List.foldl_cons, added, ih picks.2, List.map_cons, List.append_assoc, List.singleton_append]

theorem compile_of_picks {records : List Record} (picks : ∀ record ∈ records, record.action = .pick) :
    compile records = records.map .single := by
  rw [compile, Grouping.empty, foldl_add_picks picks, List.nil_append]
  rfl

theorem pickRecords_pick : ∀ record ∈ pickRecords commits, record.action = .pick := by
  intro record member
  obtain ⟨index, bound, rfl⟩ := List.mem_mapIdx.mp member
  rfl

end CuratedHistory
