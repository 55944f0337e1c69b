import CuratedHistory.Proofs.History.Abbreviation
import CuratedHistory.Proofs.Traversal
import CuratedHistory.Report.Outline

namespace CuratedHistory

/-! The outlines of blocks. They ask for diffs of known commits only: one for a picked or
bundled commit, one for a whole squash run, none for a dropped commit. When the hashes are
hexadecimal all of them exist, since all that is shown can be abbreviated. -/

/-- The record and all that is known of its commit go by hexadecimal hashes. -/
structure Record.Hexadecimal (commits : CommitLookup) (record : Record) : Prop where
  named : record.commit.Hexadecimal
  known : ∀ commit, commits record.commit = some commit → commit.hash.Hexadecimal

@[simp] theorem parts_ofParts (title : Text) (parts : List Part) :
    (Outline.ofParts title parts).parts = parts := by
  simp [Outline.parts, Outline.ofParts, List.flatMap_map, Entry.parts]

/-- Whether the part is a note in place of something that is not available. -/
def Part.isFailure : Part → Bool
  | .failure _ => true
  | _ => false

/-- What a list of parts asks for, and how many notes are in it. -/
structure Holds (parts : List Part) (requests : List (DiffBase × Text)) (failures : Nat) : Prop where
  requests : parts.filterMap Part.request? = requests
  failures : parts.countP Part.isFailure = failures

namespace Holds

variable {parts later : List Part} {requests others : List (DiffBase × Text)} {failures further : Nat}

theorem nil : Holds [] [] 0 :=
  ⟨rfl, rfl⟩

theorem html_cons (nodes : List Html) (holds : Holds parts requests failures) :
    Holds (.html nodes :: parts) requests failures :=
  ⟨holds.requests, holds.failures⟩

theorem append (one : Holds parts requests failures) (another : Holds later others further) :
    Holds (parts ++ later) (requests ++ others) (failures + further) where
  requests := by rw [List.filterMap_append, one.requests, another.requests]
  failures := by rw [List.countP_append, one.failures, another.failures]

theorem concat_html (holds : Holds parts requests failures) (nodes : List Html) :
    Holds (parts ++ [.html nodes]) requests failures where
  requests := by rw [List.filterMap_append, holds.requests]; exact List.append_nil requests
  failures := by rw [List.countP_append, holds.failures]; rfl

end Holds

namespace Block

variable {commits : CommitLookup} {record first last : Record} {label : Option Text}
  {records rest : List Record} {sectionLabel : Text}

/-- The abbreviated hash in the header of a record. -/
def shownHash (record : Record) : Option Commit → Text
  | some commit => commit.hash.take 7
  | none => record.commit.take 7

def shownHeader (record : Record) (commit : Option Commit) : List Html :=
  (match commit with
    | some known => commitHeader (shownHash record commit) known
    | none => recordHeader (shownHash record commit) record) :: planNote record

def shownTitle (record : Record) (commit : Option Commit) : Text :=
  match commit with
  | some known => shownHash record commit ++ ' ' :: known.subject
  | none => shownHash record commit

/-- The note on a record whose commit is not known. -/
def missingNote (record : Record) : Option Commit → List Part
  | some _ => []
  | none =>
      [.failure ("Details for commit ".toList ++ record.commit.take 7 ++ " are unavailable.".toList)]

def shownParts (record : Record) (commit : Option Commit) : List Part :=
  missingNote record commit ++ [.html (shownHeader record commit)]

/-- The change that a record stands for, if its commit is known. -/
def change (commits : CommitLookup) (record : Record) : Option (DiffBase × Text) :=
  (commits record.commit).map fun commit => (DiffBase.ofCommit commit, commit.hash)

/-- The diffs that a block asks for: what its commits change, each on its own, or all of
them at once in a squash run. -/
def changes (commits : CommitLookup) : Block → List (DiffBase × Text)
  | .single record => (change commits record).toList
  | .dropped _ => []
  | .squashRun records =>
      match records, records.getLast? with
      | first :: _, some last =>
          ((commits first.commit).map fun commit => (DiffBase.ofCommit commit, last.commit)).toList
      | _, _ => []
  | .bundleRun _ records => records.filterMap (change commits)

section Parts

variable (hex : record.Hexadecimal commits)
include hex

theorem shortHash?_known {commit : Commit} (known : commits record.commit = some commit) :
    shortHash? commit.hash = some (commit.hash.take 7) :=
  shortHash?_of_hexadecimal (hex.known commit known)

theorem header_eq :
    header record (commits record.commit) = some (shownHeader record (commits record.commit)) := by
  cases known : commits record.commit with
  | none => simp [header, shownHeader, shownHash, shortHash?_of_hexadecimal hex.named]
  | some commit => simp [header, shownHeader, shownHash, shortHash?_known hex known]

theorem recordTitle_eq :
    recordTitle record (commits record.commit) = some (shownTitle record (commits record.commit)) := by
  cases known : commits record.commit with
  | none => simp [recordTitle, shownTitle, shownHash, shortHash?_of_hexadecimal hex.named]
  | some commit => simp [recordTitle, shownTitle, shownHash, shortHash?_known hex known]

theorem detailsNote_eq :
    detailsNote record (commits record.commit) = some (missingNote record (commits record.commit)) := by
  cases known : commits record.commit with
  | none => simp [detailsNote, missingNote, shortHash?_of_hexadecimal hex.named]
  | some commit => rfl

theorem headed_eq :
    headed record (commits record.commit) = some (shownParts record (commits record.commit)) := by
  simp [headed, shownParts, detailsNote_eq hex, header_eq hex]

theorem commitParts_eq (label : Option Text) :
    commitParts record label (commits record.commit) =
      some (shownParts record (commits record.commit) ++ labelLine label ++
        ownDiff (commits record.commit)) := by
  simp [commitParts, headed_eq hex]

theorem singleOutline_eq :
    singleOutline commits record =
      some (.ofParts (shownTitle record (commits record.commit))
        (shownParts record (commits record.commit) ++ ownDiff (commits record.commit))) := by
  simp [singleOutline, commitParts_eq hex, recordTitle_eq hex, labelLine]

theorem droppedOutline_eq :
    droppedOutline commits record =
      some (.ofParts (shownTitle record (commits record.commit) ++ " (dropped)".toList)
        (shownParts record (commits record.commit) ++ [.html [reasonNode record]])) := by
  simp [droppedOutline, headed_eq hex, recordTitle_eq hex]

theorem squashedItem_eq :
    squashedItem commits record =
      some (Html.plain "li" (shownHeader record (commits record.commit))) := by
  simp [squashedItem, header_eq hex]

theorem bundleMember_eq (sectionLabel : Text) :
    bundleMember commits sectionLabel record =
      some (.member (shownParts record (commits record.commit) ++
        labelLine (ownLabel sectionLabel record) ++ ownDiff (commits record.commit))) := by
  simp [bundleMember, commitParts_eq hex]

end Parts

/-- The abbreviated hashes of the first and the last commit of a squash run. -/
def spanOf (first last : Record) : Text :=
  first.commit.take 7 ++ "..".toList ++ last.commit.take 7

theorem squashOutline_eq (hex : ∀ record ∈ first :: rest, record.Hexadecimal commits)
    (isLast : (first :: rest).getLast? = some last) :
    squashOutline commits (first :: rest) =
      some (.ofParts
        (spanOf first last ++ " squashed (".toList ++ Decimal.digits (rest.length + 1) ++
          " commits)".toList)
        (.html [runHeader (Decimal.digits (rest.length + 1)) (spanOf first last) first last] ::
          ((first :: rest).flatMap fun record => missingNote record (commits record.commit)) ++
          [squashedDiff (commits first.commit) last,
            .html [squashedList ((first :: rest).map fun record =>
              Html.plain "li" (shownHeader record (commits record.commit)))],
            .html [scopeNode]])) := by
  have firstShort := shortHash?_of_hexadecimal (hex first (by simp)).named
  have lastShort := shortHash?_of_hexadecimal (hex last (List.mem_of_getLast? isLast)).named
  have notes := mapM_eq_some_map fun record member => detailsNote_eq (hex record member)
  have items := mapM_eq_some_map fun record member => squashedItem_eq (hex record member)
  simp only [squashOutline, isLast, firstShort, lastShort, notes, items, Option.bind_eq_bind,
    Option.bind_some, List.flatMap_def, List.length_cons, spanOf]
  rfl

theorem bundleOutline_eq (hex : ∀ record ∈ records, record.Hexadecimal commits) :
    bundleOutline commits sectionLabel records = some {
      title := "Section: ".toList ++ sectionLabel ++ " (".toList ++
        Decimal.digits records.length ++ " commits)".toList
      entries := .line (.html [sectionOpening sectionLabel]) ::
        (records.map fun record => .member (shownParts record (commits record.commit) ++
          labelLine (ownLabel sectionLabel record) ++ ownDiff (commits record.commit))) ++
        [.line (.html [sectionClosing sectionLabel])] } := by
  have members :=
    mapM_eq_some_map fun record member => bundleMember_eq (hex record member) sectionLabel
  simp only [bundleOutline, members]
  rfl

/-- Whether nothing is known of the commit of a record. -/
def isMissing (commits : CommitLookup) (record : Record) : Bool :=
  (commits record.commit).isNone

/-- Whether a squash run cannot ask for its one diff, since nothing is known of its first commit. -/
def lacksFirst (commits : CommitLookup) : Block → Bool
  | .squashRun (first :: _) => isMissing commits first
  | _ => false

/-- How many notes stand in a block in place of what is not known of its commits. -/
def missingNotes (commits : CommitLookup) (block : Block) : Nat :=
  block.records.countP (isMissing commits) + (block.lacksFirst commits).toNat

theorem missingNotes_eq_zero {block : Block}
    (known : ∀ record ∈ block.records, isMissing commits record = false) : block.missingNotes commits = 0 := by
  have none : block.records.countP (isMissing commits) = 0 :=
    List.countP_eq_zero.mpr fun record inside => by rw [known record inside]; decide
  have first : block.lacksFirst commits = false := by
    unfold lacksFirst
    split
    · exact known _ List.mem_cons_self
    · rfl
  rw [missingNotes, none, first]
  rfl

section Holds

variable {commit : Option Commit} {parts : List Part} {outline : Outline}

theorem detailsNote_holds (noted : detailsNote record commit = some parts) :
    Holds parts [] commit.isNone.toNat := by
  cases commit with
  | some known =>
      cases noted
      exact .nil
  | none =>
      obtain ⟨short, _, isNote⟩ := Option.bind_eq_some_iff.mp noted
      cases isNote
      exact ⟨rfl, rfl⟩

theorem headed_holds (made : headed record commit = some parts) :
    Holds parts [] commit.isNone.toNat := by
  obtain ⟨note, noted, made⟩ := Option.bind_eq_some_iff.mp made
  obtain ⟨nodes, _, isHeaded⟩ := Option.bind_eq_some_iff.mp made
  cases isHeaded
  exact (detailsNote_holds noted).concat_html nodes

theorem labelLine_holds (label : Option Text) : Holds (labelLine label) [] 0 := by
  cases label with
  | none => exact .nil
  | some label => exact .html_cons _ .nil

theorem ownDiff_holds (commits : CommitLookup) (record : Record) :
    Holds (ownDiff (commits record.commit)) (change commits record).toList 0 := by
  unfold change
  cases commits record.commit <;> exact ⟨rfl, rfl⟩

theorem commitParts_holds (made : commitParts record label (commits record.commit) = some parts) :
    Holds parts (change commits record).toList (isMissing commits record).toNat := by
  obtain ⟨nodes, isHeaded, isWhole⟩ := Option.bind_eq_some_iff.mp made
  cases isWhole
  exact ((headed_holds isHeaded).append (labelLine_holds label)).append (ownDiff_holds commits record)

theorem squashedDiff_holds (commits : CommitLookup) (first last : Record) :
    Holds [squashedDiff (commits first.commit) last]
      ((commits first.commit).map fun commit => (DiffBase.ofCommit commit, last.commit)).toList
      (isMissing commits first).toNat := by
  unfold isMissing
  cases commits first.commit <;> exact ⟨rfl, rfl⟩

theorem countP_isMissing_cons (record : Record) (rest : List Record) :
    (record :: rest).countP (isMissing commits) =
      (isMissing commits record).toNat + rest.countP (isMissing commits) := by
  rw [List.countP_cons, Nat.add_comm]
  cases isMissing commits record <;> rfl

theorem notes_hold {notes : List (List Part)}
    (noted : records.mapM (fun record => detailsNote record (commits record.commit)) = some notes) :
    Holds notes.flatten [] (records.countP (isMissing commits)) := by
  have pairs := forall₂_of_mapM noted
  clear noted
  induction pairs with
  | nil => exact .nil
  | cons here _ ih =>
      rw [countP_isMissing_cons, List.flatten_cons]
      exact (detailsNote_holds here).append ih

theorem members_hold {members : List Entry}
    (made : records.mapM (bundleMember commits sectionLabel) = some members) :
    Holds (members.flatMap Entry.parts) (records.filterMap (change commits))
      (records.countP (isMissing commits)) := by
  have pairs := forall₂_of_mapM made
  clear made
  rw [List.filterMap_eq_flatMap_toList]
  induction pairs with
  | nil => exact .nil
  | cons here _ ih =>
      obtain ⟨parts, isMember, isEntry⟩ := Option.bind_eq_some_iff.mp here
      cases isEntry
      rw [countP_isMissing_cons, List.flatMap_cons, List.flatMap_cons]
      exact (commitParts_holds isMember).append ih

/-- The outline of a block asks for the changes of its commits and for nothing else, and has a
note for each commit that is not known. -/
theorem outline_holds {block : Block} (outlined : block.outline? commits = some outline) :
    Holds outline.parts (block.changes commits) (block.missingNotes commits) := by
  cases block with
  | single record =>
      obtain ⟨parts, made, outlined⟩ := Option.bind_eq_some_iff.mp outlined
      obtain ⟨title, _, isOutline⟩ := Option.bind_eq_some_iff.mp outlined
      cases isOutline
      rw [parts_ofParts, missingNotes, records, countP_isMissing_cons]
      exact commitParts_holds made
  | dropped record =>
      obtain ⟨parts, made, outlined⟩ := Option.bind_eq_some_iff.mp outlined
      obtain ⟨title, _, isOutline⟩ := Option.bind_eq_some_iff.mp outlined
      cases isOutline
      rw [parts_ofParts, missingNotes, records, countP_isMissing_cons]
      exact (headed_holds made).concat_html _
  | squashRun records =>
      cases records with
      | nil =>
          cases outlined
          exact .nil
      | cons first rest =>
          obtain ⟨last, isLast⟩ := Option.isSome_iff_exists.mp
            (List.getLast?_isSome.mpr (List.cons_ne_nil first rest))
          simp only [outline?, squashOutline, isLast, Option.bind_eq_bind, Option.bind_eq_some_iff] at outlined
          obtain ⟨_, _, _, _, notes, noted, items, _, isOutline⟩ := outlined
          cases isOutline
          rw [parts_ofParts]
          simp only [changes, isLast]
          exact ((notes_hold noted).html_cons _).append
            (((squashedDiff_holds commits first last).concat_html _).concat_html _)
  | bundleRun sectionLabel records =>
      obtain ⟨members, made, isOutline⟩ := Option.bind_eq_some_iff.mp outlined
      cases isOutline
      rw [Outline.parts, List.flatMap_append, List.flatMap_cons]
      exact ((members_hold made).html_cons _).concat_html _

end Holds

/-- Each block of hexadecimal hashes has an outline, which asks for the changes of its
commits and for nothing else. -/
theorem exists_outline (block : Block)
    (hex : ∀ record ∈ block.records, record.Hexadecimal commits) :
    ∃ outline, block.outline? commits = some outline ∧ outline.requests = block.changes commits := by
  obtain ⟨outline, outlined⟩ : ∃ outline, block.outline? commits = some outline := by
    cases block with
    | single record => exact ⟨_, singleOutline_eq (hex record (List.mem_singleton_self record))⟩
    | dropped record => exact ⟨_, droppedOutline_eq (hex record (List.mem_singleton_self record))⟩
    | squashRun records =>
        cases records with
        | nil => exact ⟨_, rfl⟩
        | cons first rest =>
            obtain ⟨last, isLast⟩ := Option.isSome_iff_exists.mp
              (List.getLast?_isSome.mpr (List.cons_ne_nil first rest))
            exact ⟨_, squashOutline_eq hex isLast⟩
    | bundleRun sectionLabel records => exact ⟨_, bundleOutline_eq hex⟩
  exact ⟨outline, outlined, (outline_holds outlined).requests⟩

theorem hexadecimal_of_mem_changes {block : Block} {request : DiffBase × Text}
    (hex : ∀ record ∈ block.records, record.Hexadecimal commits)
    (asked : request ∈ block.changes commits) : request.2.Hexadecimal := by
  have own (record : Record) (known : record.Hexadecimal commits)
      (isChange : change commits record = some request) : request.2.Hexadecimal := by
    obtain ⟨commit, found, rfl⟩ := Option.map_eq_some_iff.mp isChange
    exact known.known commit found
  cases block with
  | single record => exact own record (hex record (List.mem_singleton_self record)) (Option.mem_toList.mp asked)
  | dropped record => contradiction
  | squashRun records =>
      simp only [changes] at asked
      split at asked
      · rename_i first last isLast
        obtain ⟨commit, _, rfl⟩ := Option.map_eq_some_iff.mp (Option.mem_toList.mp asked)
        exact (hex last (List.mem_of_getLast? isLast)).named
      · contradiction
  | bundleRun sectionLabel records =>
      obtain ⟨record, inside, isChange⟩ := List.mem_filterMap.mp asked
      exact own record (hex record inside) isChange

end Block

end CuratedHistory
