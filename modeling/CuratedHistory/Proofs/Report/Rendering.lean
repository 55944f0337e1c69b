import CuratedHistory.Plan.Parser
import CuratedHistory.Proofs.Plan.Grouping
import CuratedHistory.Proofs.Plan.Run
import CuratedHistory.Proofs.Report.Fragment
import CuratedHistory.Proofs.Report.Headers
import CuratedHistory.Proofs.Text.Case

namespace CuratedHistory

/-! The fragments of an accepted plan: one for each block, numbered from one. Read back
from their HTML, the headers name the commits of the plan, each once and in order. -/

namespace Fragment

variable {mark first : Text} {history : History} {block : Block} {blocks : List Block}
  {outline : Outline} {bodies : List Body} {fragment : Fragment} {shown : List Text} {index : Nat}

theorem kindClass_noAngle (kind : BlockKind) :
    NoAngle (Html.renderAttributes [("class".toList, (kindClass kind).toList)]) := by
  cases kind <;> decide

theorem notMem_anchorOf {c : Char} (other : c ∉ "block-".toList) (noDigit : c.isDigit = false)
    (number : Nat) : c ∉ anchorOf number := by
  rw [anchorOf, List.mem_append, not_or]
  exact ⟨other, fun member => Bool.false_ne_true (noDigit.symm.trans (Decimal.isDigit_of_mem member))⟩

theorem anchorOf_noAngle (number : Nat) : NoAngle (anchorOf number) :=
  ⟨notMem_anchorOf (by decide) (by decide) number, notMem_anchorOf (by decide) (by decide) number⟩

theorem sectionHtml_shows (isMark : ReportMark mark first) {nodes : List Html} (kind : BlockKind)
    (index : Nat) (shows : Shows mark (Html.renderAll nodes) shown) :
    Shows mark (sectionHtml kind (anchorOf index) nodes).render shown := by
  have attributes := (kindClass_noAngle kind).append
    (attribute_noAngle (by decide : NoAngle "id".toList) (anchorOf_noAngle index))
  rw [Html.renderAttributes, Html.renderAttributes, ← List.flatMap_append] at attributes
  exact isMark.shows_element (by decide) attributes (isMark.shows_newline.cons shows)

theorem shows_of_yields (isMark : ReportMark mark first)
    (made : ofBlock? history .escaped index block = some fragment)
    (yields : ∃ outline, block.outline? history.commit? = some outline ∧
      Yields mark (entryBody history .escaped) outline.entries shown) :
    Shows mark fragment.html shown := by
  obtain ⟨outline, outlined, bodies, isBodies, shows⟩ := yields
  obtain ⟨outlineToo, bodiesToo, outlinedToo, isBodiesToo, rfl⟩ := ofBlock?_eq_some_iff.mp made
  rw [outlined, Option.some.injEq] at outlinedToo
  subst outlinedToo
  rw [isBodies, Option.some.injEq] at isBodiesToo
  subst isBodiesToo
  exact isMark.shows_line (sectionHtml_shows isMark block.kind index shows)

/-- What the fragment of a block shows: the abbreviated hashes of the commits in order,
and the section at both ends of a run of bundled commits. -/
structure Presents (block : Block) (fragment : Fragment) : Prop where
  headers : Shows headerMark fragment.html (block.records.map fun record => record.commit.take 7)
  opening : ∀ sectionLabel records, block = .bundleRun sectionLabel records →
    textsAfter openingMark fragment.html = [escapeHtml ("Section: ".toList ++ sectionLabel)]
  closing : ∀ sectionLabel records, block = .bundleRun sectionLabel records →
    textsAfter closingMark fragment.html = [escapeHtml ("End of section: ".toList ++ sectionLabel)]

/-- Commits are known by the hashes that they are looked up by. -/
def Truthful (commits : CommitLookup) : Prop :=
  ∀ hash commit, commits hash = some commit → commit.hash = hash

theorem shownHash_of_truthful {commits : CommitLookup} (truthful : Truthful commits) (record : Record) :
    Block.shownHash record (commits record.commit) = record.commit.take 7 := by
  cases known : commits record.commit with
  | none => rfl
  | some commit => rw [Block.shownHash, truthful record.commit commit known]

theorem presents_of_made (truthful : Truthful history.commit?)
    (hex : ∀ record ∈ block.records, record.Hexadecimal history.commit?)
    (made : ofBlock? history .escaped index block = some fragment) : Presents block fragment := by
  constructor
  case headers =>
    have shows := shows_of_yields .header made (Block.yields_headers block hex)
    simp only [shownHash_of_truthful truthful, ← List.map_eq_flatMap] at shows
    exact shows
  case opening =>
    rintro sectionLabel records rfl
    exact (shows_of_yields (.section .opening) made (Block.yields_opening hex)).textsAfter_eq
  case closing =>
    rintro sectionLabel records rfl
    exact (shows_of_yields (.section .closing) made (Block.yields_closing hex)).textsAfter_eq

theorem shows_headers {fragments : List Fragment} (all : List.Forall₂ Presents blocks fragments) :
    Shows headerMark (fragments.flatMap Fragment.html)
      ((blocks.flatMap Block.records).map fun record => record.commit.take 7) := by
  induction all with
  | nil => exact .nil headerMark
  | cons presents _ ih =>
      rw [List.flatMap_cons, List.flatMap_cons, List.map_append]
      exact presents.headers.append ih

end Fragment

theorem hexadecimal_of_member {hashes : List Text} (full : ∀ hash ∈ hashes, isFullHash hash = true)
    {hash : Text} (member : hash ∈ (PlanRange.ofHashes hashes).members) : hash.Hexadecimal := by
  obtain ⟨original, inside, rfl⟩ := List.mem_map.mp (PlanRange.mem_distinct.mp member)
  intro c among
  obtain ⟨letter, written, rfl⟩ := List.mem_map.mp among
  rw [isHexDigit_toLower]
  exact Text.Hexadecimal.of_isFullHash (full original inside) letter written

/-- The label of a section is never empty, since a bundled commit is in some section. -/
theorem label_ne_nil {range : PlanRange} {block : Block} {sectionLabel : Text} {records : List Record}
    (isBundle : block = .bundleRun sectionLabel records) (uniform : block.Uniform) (labelled : block.Labelled)
    (wellFormed : ∀ record ∈ block.records, record.WellFormed range) : sectionLabel ≠ [] := by
  subst isBundle
  obtain ⟨opener, rest, rfl⟩ := List.exists_cons_of_ne_nil uniform.1
  have bundled := uniform.2 opener List.mem_cons_self
  have whole := wellFormed opener List.mem_cons_self
  obtain ⟨label, isLabel⟩ := Option.ne_none_iff_exists'.mp (whole.sectionOfBundle.mpr bundled)
  rw [labelled opener rfl, isLabel, Option.getD_some]
  exact (whole.sectionLabel label isLabel).nonempty

variable {hashes : List Text} {resolver : Resolver} {text : Text} {records : List Record}
  {history : History}

/-- The fragments of an accepted plan over full hashes, whatever lookups and diffs fail:
one for each block, with numbered anchors. The headers in them show the abbreviated hashes
of the records in the order of the plan, which is that of the range, and each section is
named at both of its ends. -/
theorem fragments_present_plan (full : ∀ hash ∈ hashes, isFullHash hash = true)
    (truthful : Fragment.Truthful history.commit?)
    (accepted : parsePlan (.ofHashes hashes) resolver text = .ok records) :
    ∃ fragments, Fragment.ofBlocks? history .escaped (compile records) = some fragments ∧
      (fragments.map fun fragment => (fragment.anchor, fragment.kind)) =
        (compile records).mapIdx (fun place block =>
          ("block-".toList ++ Decimal.digits (place + 1), block.kind)) ∧
      records.mapM (fun record => shortHash? record.commit) =
        some (textsAfter headerMark (fragments.flatMap Fragment.html)) ∧
      records.Pairwise (Record.Before (.ofHashes hashes)) ∧
      List.Forall₂ Fragment.Presents (compile records) fragments ∧
      ∀ sectionLabel members, .bundleRun sectionLabel members ∈ compile records → sectionLabel ≠ [] := by
  obtain ⟨parser, consistent, rfl⟩ := PlanParser.exists_consistent accepted
  have groups := compile_groups parser.records
  have named : ∀ record ∈ parser.records, record.commit.Hexadecimal :=
    fun record member => hexadecimal_of_member full (consistent.wellFormed record member).member
  have inBlocks : ∀ block ∈ compile parser.records, ∀ record ∈ block.records, record ∈ parser.records := by
    intro block member record inside
    rw [← groups.covers]
    exact List.mem_flatMap_of_mem member inside
  have hex : ∀ block ∈ compile parser.records, ∀ record ∈ block.records,
      record.Hexadecimal history.commit? := by
    intro block member record inside
    have isHex := named record (inBlocks block member record inside)
    refine ⟨isHex, fun commit known => ?_⟩
    rwa [truthful record.commit commit known]
  obtain ⟨fragments, made⟩ := Fragment.exists_fragments hex .escaped 1
  have presents : List.Forall₂ Fragment.Presents (compile parser.records) fragments := by
    refine ((List.forall₂_and_left _ _).mpr ⟨hex, Fragment.forall₂_of_made made⟩).imp ?_
    rintro block fragment ⟨known, place, here⟩
    exact Fragment.presents_of_made truthful known here
  refine ⟨fragments, made, Fragment.places_of_made made, ?_, consistent.ordered, presents, ?_⟩
  · rw [(Fragment.shows_headers presents).textsAfter_eq, groups.covers]
    exact mapM_eq_some_map fun record member => shortHash?_of_hexadecimal (named record member)
  · intro sectionLabel members inside
    have wellFormed : ∀ record ∈ Block.records (.bundleRun sectionLabel members), record.WellFormed _ :=
      fun record among => consistent.wellFormed record (inBlocks _ inside record among)
    exact label_ne_nil rfl (groups.uniform _ inside) (groups.labelled _ inside) wellFormed

/-- Nothing is known of the one commit, and no diff can be had of the others. -/
def halfKnown : History where
  commit? hash :=
    if hash = List.replicate 40 'b' then none
    else some {
      hash := hash, message := "<h3><code class=\"sha\">0000000".toList, author := "A".toList
      authorEmail := [], time := Instant.ofSeconds 0, parents := [] }
  diff? _ _ := none

def mixedHashes : List Text :=
  ['A', 'b', 'c', 'd', 'e'].map (List.replicate 40)

def mixedPlan : Text :=
  "pick aaaaaaa\nsquash bbbbbbb\nsquash ccccccc\ndrop ddddddd % <h3>\nbundle eeeeeee % Last".toList

def mixedRecords : List Record := [
  plainRecord 1 .pick 'a', plainRecord 2 .squash 'b', plainRecord 3 .squash 'c',
  { plainRecord 4 .drop 'd' with reason := some "<h3>".toList },
  { plainRecord 5 .bundle 'e' with sectionLabel := some "Last".toList }]

theorem halfKnown_truthful : Fragment.Truthful halfKnown.commit? := by
  intro hash commit known
  by_cases unknown : hash = List.replicate 40 'b'
  · rw [show halfKnown.commit? hash = none from if_pos unknown] at known
    contradiction
  · rw [show halfKnown.commit? hash = some _ from if_neg unknown] at known
    cases known
    rfl

theorem fragments_present_mixedPlan :
    (∀ hash ∈ mixedHashes, isFullHash hash = true) ∧ Fragment.Truthful halfKnown.commit? ∧
      parsePlan (.ofHashes mixedHashes) (PlanRange.ofHashes mixedHashes).resolver mixedPlan =
        .ok mixedRecords ∧
      ∃ fragments, Fragment.ofBlocks? halfKnown .escaped (compile mixedRecords) = some fragments ∧
        textsAfter headerMark (fragments.flatMap Fragment.html) =
          ['a', 'b', 'c', 'd', 'e'].map (List.replicate 7) := by
  have full : ∀ hash ∈ mixedHashes, isFullHash hash = true := by decide +kernel
  have accepted : parsePlan (.ofHashes mixedHashes) (PlanRange.ofHashes mixedHashes).resolver mixedPlan =
      .ok mixedRecords := by
    decide +kernel
  obtain ⟨fragments, made, _, headers, _⟩ := fragments_present_plan full halfKnown_truthful accepted
  have short : mixedRecords.mapM (fun record => shortHash? record.commit) =
      some (['a', 'b', 'c', 'd', 'e'].map (List.replicate 7)) := by
    decide +kernel
  rw [short, Option.some.injEq] at headers
  exact ⟨full, halfKnown_truthful, accepted, fragments, made, headers.symm⟩

end CuratedHistory
