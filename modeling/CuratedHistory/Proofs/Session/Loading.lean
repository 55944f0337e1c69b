import CuratedHistory.Proofs.Plan.Reading
import CuratedHistory.Proofs.Plan.Refusal
import CuratedHistory.Proofs.Plan.Run
import CuratedHistory.Proofs.Session.DefaultPlan
import CuratedHistory.Proofs.Session.Editing
import CuratedHistory.Proofs.Text.Lines

namespace CuratedHistory

/-! One plan from three sources: a file, standard input, and a session of an editor. All
three parse the same text, but for a byte order mark in front of it, which the editor's
text keeps. No plan is accepted with the mark. -/

section Marked

variable {c : Char} {word : Text} {action : Action}

/-- All names of actions begin with one of four letters. -/
theorem Action.head_of_named? (named : Action.named? word = some action) :
    (Text.lower word).head? ∈ ['p', 'd', 's', 'b'].map some := by
  have first : ∀ action, (Action.keyword action).head? ∈ ['p', 'd', 's', 'b'].map some ∧
      (Action.letter action).head? ∈ ['p', 'd', 's', 'b'].map some := by
    intro action
    cases action <;> decide
  have matched := List.find?_some named
  rw [Bool.or_eq_true, beq_iff_eq, beq_iff_eq] at matched
  rcases matched with whole | short
  · rw [whole]
    exact (first action).1
  · rw [short]
    exact (first action).2

theorem Directive.ofLine_marked (line : Text) :
    ∃ keyword, Directive.ofLine (byteOrderMark :: line) = .error (.unknownAction (byteOrderMark :: keyword)) := by
  have solid : isBlank byteOrderMark = false := by decide
  have trimmed : Text.trim (byteOrderMark :: line) = byteOrderMark :: Text.trimEnd line := by
    rw [Text.trim, Text.trimStart_eq_self (by rintro c ⟨rfl⟩; exact solid), Text.trimEnd_cons solid]
  have unnamed (keyword : Text) : Action.named? (byteOrderMark :: keyword) = none := by
    rw [Option.eq_none_iff_forall_not_mem]
    intro action named
    have first := Action.head_of_named? named
    exact absurd first (show ¬ some byteOrderMark.toLower ∈ _ by decide)
  refine ⟨(Text.trimEnd line).takeWhile fun c => !isBlank c, ?_⟩
  rw [Directive.ofLine, trimmed]
  split
  · contradiction
  · rename_i comment
    exact absurd (List.cons.inj comment).1 (by decide)
  · rename_i first rest _ whole
    obtain ⟨rfl, rfl⟩ := List.cons.inj whole
    simp [Directive.ofTrimmed, Text.splitAtFirst, solid, Directive.readAction, unnamed, bind,
      Except.bind, Except.map]

end Marked

variable {range : PlanRange} {resolver : Resolver} {text : Text}

/-- A plan with the mark in front is refused at once, for a keyword that begins with it. -/
theorem parsePlan_marked (range : PlanRange) (resolver : Resolver) (text : Text) :
    ∃ keyword, parsePlan range resolver (byteOrderMark :: text) = .error {
      line := 1, text := byteOrderMark :: (Text.lines text).headD []
      cause := .unknownAction (byteOrderMark :: keyword) } := by
  obtain ⟨keyword, unread⟩ := Directive.ofLine_marked ((Text.lines text).headD [])
  refine ⟨keyword, ?_⟩
  rw [parsePlan, Text.lines_solid_cons (by decide) (by decide)]
  simp only [PlanParser.processLines, PlanParser.processLine, unread]

theorem parsePlan_marked_ne (range : PlanRange) (resolver : Resolver) (text : Text) :
    parsePlan range resolver (byteOrderMark :: text) ≠ parsePlan range resolver text := by
  intro same
  obtain ⟨keyword, marked⟩ := parsePlan_marked range resolver text
  rw [marked] at same
  -- The same error would quote the first line of the plan both with and without the mark.
  obtain ⟨before, raw, after, records, split, _, stops⟩ :=
    PlanParser.exists_refused_of_processLines same.symm
  obtain ⟨number, quoted, _⟩ := PlanParser.processLine_eq_error stops
  have first : before = [] := List.eq_nil_of_length_eq_zero (by simp only at number; omega)
  rw [first, List.nil_append] at split
  rw [split, List.headD_cons] at quoted
  exact absurd (congrArg List.length quoted) (by simp)

/-- The plan, or what is wrong with it, if a plan could be read at all. -/
def Loaded.verdict? (loaded : Loaded) : Option (Except PlanError (List Record)) :=
  match loaded.result with
  | .ok records => some (.ok records)
  | .error (.plan error) => some (.error error)
  | .error (.edit (.rejected _ error)) => some (.error error)
  | .error _ => none

/-- The same bytes are in a file, on standard input, and left behind by the only session of
an editor. -/
structure Offered (range : CommitRange) (files : FileSystem) (path : Text) (inputs : PlanInputs)
    (bytes : Bytes) : Prop where
  stored : files.read path = .ok bytes
  piped : inputs.standardInput = bytes
  left : inputs.editor.session 0 (Utf8.encode range.defaultPlan) = { left := some bytes, status := 0 }
  once : inputs.attempts ≤ 1

namespace PlanSource

open Repository

variable {repository : Repository} {range : CommitRange} {files : FileSystem} {path : Text}
  {inputs : PlanInputs} {bytes : Bytes} {text : Text}

theorem verdict?_parseRead (repository : Repository) (range : CommitRange) (text : Text) :
    (parseRead repository range (.ok text)).verdict? = some (repository.parsePlan range text) := by
  cases parsed : repository.parsePlan range text <;>
    simp only [Loaded.verdict?, parseRead, parsed, Except.mapError]

section Sources

variable (offered : Offered range files path inputs bytes) (decoded : Utf8.decode? bytes = some text)
include offered decoded

theorem verdict?_file :
    (load (.file path) repository range files inputs).verdict? =
      some (repository.parsePlan range (withoutMark text)) := by
  have isRead : readFile files path = .ok (withoutMark text) := by
    simp only [readFile, FileSystem.readText, offered.stored, decoded]
  rw [load, isRead, verdict?_parseRead]

theorem verdict?_standardInput :
    (load .standardInput repository range files inputs).verdict? =
      some (repository.parsePlan range (withoutMark text)) := by
  have isRead : readStandardInput inputs = .ok (withoutMark text) := by
    simp only [readStandardInput, offered.piped, decoded]
  rw [load, isRead, verdict?_parseRead]

/-- What the editor leaves is parsed as it stands. -/
theorem verdict?_edit :
    (load .edit repository range files inputs).verdict? = some (repository.parsePlan range text) := by
  have sessions := offered.once
  have leaves : inputs.editor.Leaves 0 range.defaultPlan text :=
    ⟨by rw [offered.left], bytes, by rw [offered.left], decoded⟩
  cases parsed : repository.parsePlan range text with
  | ok records =>
      have edited : (editPlan inputs.editor inputs.attempts (repository.parsePlan range)
          range.defaultPlan).result = .ok records :=
        editPlan_result_iff.mpr ⟨0, _, by omega, .start, .accepted leaves parsed⟩
      simp only [Loaded.verdict?, load, edited, Except.mapError]
  | error error =>
      have edited : (editPlan inputs.editor inputs.attempts (repository.parsePlan range)
          range.defaultPlan).result = .error (.rejected (max inputs.attempts 1) error) :=
        editPlan_result_iff.mpr ⟨0, _, by omega, .start, .rejected leaves parsed (by omega)⟩
      simp only [Loaded.verdict?, load, edited, Except.mapError]

end Sources

/-- Files and standard input give the same plan, or the same error, as the text without its
mark; an editor's session gives that of the text with it. So all three sources agree on a
text exactly if it begins with no mark, and an editor's text with a mark is always refused,
for a keyword that begins with the mark. -/
theorem sources_agree_iff_unmarked (repository : Repository)
    (offered : Offered range files path inputs bytes) (decoded : Utf8.decode? bytes = some text) :
    (load (.file path) repository range files inputs).verdict? =
        some (repository.parsePlan range (withoutMark text)) ∧
      (load .standardInput repository range files inputs).verdict? =
        (load (.file path) repository range files inputs).verdict? ∧
      ((load .edit repository range files inputs).verdict? =
          (load (.file path) repository range files inputs).verdict? ↔
        text.head? ≠ some byteOrderMark) ∧
      ∀ rest, text = byteOrderMark :: rest → ∃ keyword,
        (load .edit repository range files inputs).verdict? = some (.error {
          line := 1, text := byteOrderMark :: (Text.lines rest).headD []
          cause := .unknownAction (byteOrderMark :: keyword) }) := by
  rw [verdict?_file offered decoded, verdict?_standardInput offered decoded, verdict?_edit offered decoded]
  refine ⟨rfl, rfl, ?_, ?_⟩
  · cases text with
    | nil => simp [withoutMark]
    | cons c rest =>
        by_cases marked : c = byteOrderMark
        · subst marked
          have differs := parsePlan_marked_ne range.planRange repository.resolver rest
          simpa [withoutMark, Repository.parsePlan] using differs
        · simp [withoutMark, marked]
  · rintro rest rfl
    obtain ⟨keyword, refused⟩ := parsePlan_marked range.planRange repository.resolver rest
    exact ⟨keyword, by rw [Repository.parsePlan, refused]⟩

/-- A plan as an editor may write it that puts a mark in front of every text. -/
def markedPlan : Text :=
  byteOrderMark :: "pick bbbbbbb".toList

def markedFiles : FileSystem where
  workingDirectory := ["work".toList]
  nodes := [
    (["work".toList], .directory),
    (["work".toList, "plan.txt".toList], .file 420 (Utf8.encode markedPlan))]

def markedInputs : PlanInputs where
  standardInput := Utf8.encode markedPlan
  editor := {
    command := "editor".toList
    session := fun _ _ => { left := some (Utf8.encode markedPlan), status := 0 } }
  attempts := 1

theorem marked_offered :
    Offered oddlyTitledRange markedFiles "plan.txt".toList markedInputs (Utf8.encode markedPlan) where
  stored := by decide +kernel
  piped := rfl
  left := rfl
  once := Nat.le_refl 1

theorem decode?_markedPlan : Utf8.decode? (Utf8.encode markedPlan) = some markedPlan := by
  decide +kernel

theorem sources_differ_markedPlan :
    Offered oddlyTitledRange markedFiles "plan.txt".toList markedInputs (Utf8.encode markedPlan) ∧
      Utf8.decode? (Utf8.encode markedPlan) = some markedPlan ∧
      (load (.file "plan.txt".toList) oddlyTitled oddlyTitledRange markedFiles markedInputs).verdict? =
        some (.ok [plainRecord 1 .pick 'b']) ∧
      ∃ keyword, (load .edit oddlyTitled oddlyTitledRange markedFiles markedInputs).verdict? =
        some (.error {
          line := 1, text := markedPlan, cause := .unknownAction (byteOrderMark :: keyword) }) := by
  obtain ⟨fromFile, _, _, fromEditor⟩ :=
    sources_agree_iff_unmarked oddlyTitled marked_offered decode?_markedPlan
  have parsed : oddlyTitled.parsePlan oddlyTitledRange (withoutMark markedPlan) =
      .ok [plainRecord 1 .pick 'b'] := by
    decide +kernel
  rw [parsed] at fromFile
  exact ⟨marked_offered, decode?_markedPlan, fromFile, fromEditor _ rfl⟩

/-- A plan that is accepted from a file is not always accepted from an editor. -/
theorem exists_source_dependent_plan :
    ¬ ∀ (repository : Repository) (range : CommitRange) (files : FileSystem) (path : Text)
      (inputs : PlanInputs) (bytes : Bytes) (text : Text),
      Offered range files path inputs bytes → Utf8.decode? bytes = some text →
        (load .edit repository range files inputs).verdict? =
          (load (.file path) repository range files inputs).verdict? := by
  intro agree
  have same := agree oddlyTitled _ _ _ _ _ _ marked_offered decode?_markedPlan
  rw [verdict?_edit marked_offered decode?_markedPlan, verdict?_file marked_offered decode?_markedPlan,
    Option.some.injEq] at same
  exact parsePlan_marked_ne _ _ _ same

end PlanSource

end CuratedHistory
