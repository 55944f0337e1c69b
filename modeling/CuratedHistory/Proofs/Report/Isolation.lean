import CuratedHistory.Proofs.Plan.Parsing
import CuratedHistory.Proofs.Report.Fragment

namespace CuratedHistory

/-! What a failure can change. Two renderings of the same blocks can differ only in the fragments
whose own commits, diffs or markup differ. -/

variable {commits others : CommitLookup} {block : Block}

/-- An outline is settled by what is known of the commits of the block. -/
theorem Block.outline?_congr (same : ∀ record ∈ block.records, commits record.commit = others record.commit) :
    block.outline? commits = block.outline? others := by
  cases block with
  | single record =>
      have known := same record (List.mem_singleton_self record)
      simp only [outline?, singleOutline, known]
  | dropped record =>
      have known := same record (List.mem_singleton_self record)
      simp only [outline?, droppedOutline, known]
  | squashRun records =>
      cases records with
      | nil => rfl
      | cons first rest =>
          have known := same first List.mem_cons_self
          have notes : (first :: rest).mapM (fun record => detailsNote record (commits record.commit)) =
              (first :: rest).mapM (fun record => detailsNote record (others record.commit)) :=
            mapM_congr fun record inside => by rw [same record inside]
          have items : (first :: rest).mapM (squashedItem commits) =
              (first :: rest).mapM (squashedItem others) :=
            mapM_congr fun record inside => by rw [squashedItem, squashedItem, same record inside]
          obtain ⟨last, isLast⟩ := Option.isSome_iff_exists.mp
            (List.getLast?_isSome.mpr (List.cons_ne_nil first rest))
          simp only [outline?, squashOutline, isLast, known, notes, items]
  | bundleRun sectionLabel records =>
      have members : records.mapM (bundleMember commits sectionLabel) =
          records.mapM (bundleMember others sectionLabel) :=
        mapM_congr fun record inside => by rw [bundleMember, bundleMember, same record inside]
      simp only [outline?, bundleOutline, members]

namespace Fragment

variable {history other : History} {markup otherMarkup : Markup} {blocks : List Block}
  {fragments further : List Fragment} {fragment : Fragment} {number place : Nat}
  {change : DiffBase × Text}

/-- A diff, and its HTML if it changes something, are the same in two sources with two ways of
markup. Two failures are the same whatever their causes are. -/
structure AgreeAt (history other : History) (markup otherMarkup : Markup) (change : DiffBase × Text) :
    Prop where
  diff : history.diff? change.1 change.2 = other.diff? change.1 change.2
  markup : ∀ patch, history.diff? change.1 change.2 = some patch → patch.isEmpty = false →
    (markup.convertPatch patch).toOption = (otherMarkup.convertPatch patch).toOption

/-- What concerns a block is the same in both: the metadata of its own commits, and the diffs that
it asks for. -/
structure AgreeFor (history other : History) (markup otherMarkup : Markup) (block : Block) : Prop where
  commits : ∀ record ∈ block.records, history.commit? record.commit = other.commit? record.commit
  changes : ∀ change ∈ block.changes history.commit?, AgreeAt history other markup otherMarkup change

theorem diffNodes?_eq_map {base : DiffBase} {child : Text} {patch : Patch}
    (found : history.diff? base child = some patch) (something : patch.isEmpty = false) :
    diffNodes? history markup base child = (markup.convertPatch patch).toOption.map fun body =>
      [Html.classed "p" "stat" [.text patch.shortStat], Html.newline, body] := by
  simp only [diffNodes?, found, something, Bool.false_eq_true, if_false]
  cases markup.convertPatch patch <;> rfl

theorem AgreeAt.diffBody_eq (agree : AgreeAt history other markup otherMarkup change) :
    diffBody history markup change.1 change.2 = diffBody other otherMarkup change.1 change.2 := by
  have same : diffNodes? history markup change.1 change.2 =
      diffNodes? other otherMarkup change.1 change.2 := by
    have diff := agree.diff
    cases found : history.diff? change.1 change.2 with
    | none =>
        rw [found] at diff
        simp only [diffNodes?, found, ← diff]
    | some patch =>
        rw [found] at diff
        cases something : patch.isEmpty with
        | true => simp only [diffNodes?, found, ← diff, something, if_true]
        | false =>
            rw [diffNodes?_eq_map found something, diffNodes?_eq_map diff.symm something,
              agree.markup patch found something]
  unfold diffBody
  rw [same]

theorem AgreeFor.ofBlock?_eq (agree : AgreeFor history other markup otherMarkup block) (number : Nat) :
    ofBlock? history markup number block = ofBlock? other otherMarkup number block := by
  have same := Block.outline?_congr agree.commits
  refine ofBlock?_congr number same fun outline outlined change asked => ?_
  rw [← same] at outlined
  rw [Outline.requests, (Block.outline_holds outlined).requests] at asked
  exact (agree.changes change asked).diffBody_eq

/-- A dropped block asks for no diff, so that only its commit matters. -/
theorem AgreeFor.dropped {record : Record}
    (same : history.commit? record.commit = other.commit? record.commit) :
    AgreeFor history other markup otherMarkup (.dropped record) where
  commits := List.forall_mem_singleton.mpr same
  changes := List.forall_mem_nil _

/-- A squash run asks for one diff, from before its first commit to its last one. -/
theorem AgreeFor.squashRun {records : List Record}
    (same : ∀ record ∈ records, history.commit? record.commit = other.commit? record.commit)
    (whole : ∀ first ∈ records.head?, ∀ last ∈ records.getLast?, ∀ commit ∈ history.commit? first.commit,
      AgreeAt history other markup otherMarkup (DiffBase.ofCommit commit, last.commit)) :
    AgreeFor history other markup otherMarkup (.squashRun records) where
  commits := same
  changes := by
    intro change asked
    simp only [Block.changes] at asked
    split at asked
    · rename_i first rest last isLast
      obtain ⟨commit, known, rfl⟩ := Option.map_eq_some_iff.mp (Option.mem_toList.mp asked)
      exact whole first rfl last isLast commit known
    · contradiction

/-- Where two runs agree on what concerns a block, they give it the same fragment. -/
theorem getElem?_eq_of_agree (made : ofBlocksFrom? history markup number blocks = some fragments)
    (madeToo : ofBlocksFrom? other otherMarkup number blocks = some further)
    (agree : ∀ block ∈ blocks[place]?, AgreeFor history other markup otherMarkup block) :
    fragments[place]? = further[place]? := by
  rw [getElem?_of_made made, getElem?_of_made madeToo]
  cases isBlock : blocks[place]? with
  | none => rfl
  | some block => exact (agree block isBlock).ofBlock?_eq (place + number)

/-- Failures are isolated. What becomes of a block is settled by what concerns it: for a dropped
block no diff, for a squash run the one diff over all of it. Two runs that come to an end give
fragments of the same number, with the same anchors and kinds, and where they agree on what
concerns a block they give the same fragment, whatever fails elsewhere. With hexadecimal hashes
every run comes to an end. -/
theorem failures_isolated (history other : History) (markup otherMarkup : Markup) (blocks : List Block) :
    (∀ block number, AgreeFor history other markup otherMarkup block →
      ofBlock? history markup number block = ofBlock? other otherMarkup number block) ∧
    (∀ record number, history.commit? record.commit = other.commit? record.commit →
      ofBlock? history markup number (.dropped record) =
        ofBlock? other otherMarkup number (.dropped record)) ∧
    (∀ records number, (∀ record ∈ records, history.commit? record.commit = other.commit? record.commit) →
      (∀ first ∈ records.head?, ∀ last ∈ records.getLast?, ∀ commit ∈ history.commit? first.commit,
        AgreeAt history other markup otherMarkup (DiffBase.ofCommit commit, last.commit)) →
      ofBlock? history markup number (.squashRun records) =
        ofBlock? other otherMarkup number (.squashRun records)) ∧
    (∀ fragments further, ofBlocks? history markup blocks = some fragments →
      ofBlocks? other otherMarkup blocks = some further →
        fragments.length = blocks.length ∧ further.length = blocks.length ∧
        (fragments.map fun fragment => (fragment.anchor, fragment.kind)) =
          (further.map fun fragment => (fragment.anchor, fragment.kind)) ∧
        ∀ place : Nat, (∀ block ∈ blocks[place]?, AgreeFor history other markup otherMarkup block) →
          fragments[place]? = further[place]?) ∧
    ((∀ block ∈ blocks, ∀ record ∈ block.records, record.Hexadecimal history.commit?) →
      ∃ fragments, ofBlocks? history markup blocks = some fragments) := by
  refine ⟨fun block number agree => agree.ofBlock?_eq number, ?dropped, ?squashed, ?runs, ?hexadecimal⟩
  case dropped => exact fun record number same => (AgreeFor.dropped same).ofBlock?_eq number
  case squashed => exact fun records number same whole => (AgreeFor.squashRun same whole).ofBlock?_eq number
  case runs =>
    intro fragments further made madeToo
    exact ⟨(forall₂_of_made made).length_eq.symm, (forall₂_of_made madeToo).length_eq.symm,
      (places_of_made made).trans (places_of_made madeToo).symm,
      fun place => getElem?_eq_of_agree made madeToo⟩
  case hexadecimal => exact fun hex => exists_fragments hex markup 1

/-- The hash of the first record is not hexadecimal, and its seventh byte is inside a letter. -/
def accentedBlocks : List Block :=
  [.single { plainRecord 1 .pick 'a' with commit := "aaaaaaé".toList }, .single (plainRecord 2 .pick 'b')]

/-- All commits are known, by a hexadecimal hash. -/
def accented : History where
  commit? _ := some {
    hash := List.replicate 40 'b', message := "A".toList, author := "A".toList
    authorEmail := [], time := Instant.ofSeconds 0, parents := [] }
  diff? _ _ := none

/-- The same commits without the one of the first record. -/
def bereft : History :=
  { accented with commit? := fun hash => if hash = "aaaaaaé".toList then none else accented.commit? hash }

/-- A lookup that fails can take all fragments away, if the hash cannot be abbreviated. -/
theorem exists_failure_not_isolated :
    (∀ block ∈ accentedBlocks[1]?, AgreeFor accented bereft .escaped .escaped block) ∧
      (ofBlocks? accented .escaped accentedBlocks).map List.length = some 2 ∧
      ofBlocks? bereft .escaped accentedBlocks = none := by
  have known : accented.commit? (plainRecord 2 .pick 'b').commit =
      bereft.commit? (plainRecord 2 .pick 'b').commit := by
    have apart : (plainRecord 2 .pick 'b').commit ≠ "aaaaaaé".toList := by decide +kernel
    simp only [bereft, apart, if_false]
  refine ⟨?_, by decide +kernel, by decide +kernel⟩
  rintro block ⟨⟩
  constructor
  case commits => exact List.forall_mem_singleton.mpr known
  case changes => exact fun change _ => ⟨rfl, fun _ _ _ => rfl⟩

end Fragment

end CuratedHistory
