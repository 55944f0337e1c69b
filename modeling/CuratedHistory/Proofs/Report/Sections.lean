import CuratedHistory.Proofs.Report.Document
import CuratedHistory.Proofs.Report.Landmarks

namespace CuratedHistory

/-! The sections of a report: one for each block, in order, and in it one header for each record
of the block. Nothing else in the report is a section or a header. The notes on failures are as
many as are counted, and the only links are those of the contents. -/

open Html

/-- The landmarks of a part that are no notes on failures. -/
def Part.landmarks : Part → List Text
  | .html nodes => allLandmarks nodes
  | .failure _ => []
  | .diff _ _ => []

theorem Part.landmarks_line (node : Html) : (Part.html [node]).landmarks = node.landmarks :=
  List.append_nil _

namespace Block

variable {commits : CommitLookup} {record first last : Record} {records : List Record} {hash : Text}
  {commit : Option Commit}

theorem quiet_hexadecimal (hex : hash.Hexadecimal) : (Html.markup hash).landmarks = [] :=
  landmarksIn_of_notMem (hex.notMem (by decide))

theorem quiet_middot : (Html.markup "&middot;".toList).landmarks = [] :=
  landmarksIn_of_notMem (by decide)

theorem planNote_quiet (record : Record) : AllQuiet (planNote record) := by
  unfold planNote
  split
  · exact ⟨rfl, quiet_classed (by simp) ⟨rfl, rfl, trivial⟩, trivial⟩
  · trivial

theorem shaCode_quiet (hex : hash.Hexadecimal) :
    (shaCode [] hash).landmarks = [] ∧ (shaCode [("class".toList, "sha".toList)] hash).landmarks = [] :=
  ⟨quiet_plain (by simp) ⟨quiet_hexadecimal hex, trivial⟩,
    quiet_classed (by simp) ⟨quiet_hexadecimal hex, trivial⟩⟩

theorem landmarks_commitHeader (hex : hash.Hexadecimal) {commit : Commit}
    (known : commit.hash.Hexadecimal) : (commitHeader hash commit).landmarks = [headerTag] := by
  have message : AllQuiet (if commit.body = [] then []
      else [Html.classed "pre" "message" [.text commit.body], Html.newline]) := by
    split
    · trivial
    · exact ⟨quiet_classed (by simp) ⟨rfl, trivial⟩, rfl, trivial⟩
  refine landmarks_header (AllQuiet.append ⟨rfl, ?title, rfl, ?details, rfl, trivial⟩ message)
  case title => exact quiet_plain (by simp) ⟨(shaCode_quiet hex).2, rfl, trivial⟩
  case details =>
    exact quiet_classed (by simp)
      ⟨rfl, quiet_middot, rfl, quiet_middot, rfl, (shaCode_quiet known).1, trivial⟩

theorem landmarks_recordHeader (hex : hash.Hexadecimal) (record : Record) :
    (recordHeader hash record).landmarks = [headerTag] := by
  refine landmarks_header ⟨rfl, ?title, rfl, ?details, rfl, trivial⟩
  case title => exact quiet_plain (by simp) ⟨(shaCode_quiet hex).2, trivial⟩
  case details => exact quiet_classed (by simp) ⟨quiet_plain (by simp) ⟨rfl, trivial⟩, trivial⟩

theorem landmarks_shownHeader (hex : record.Hexadecimal commits) :
    allLandmarks (shownHeader record (commits record.commit)) = [headerTag] := by
  have short := shownHash_hexadecimal hex
  cases known : commits record.commit with
  | none =>
      rw [known] at short
      rw [shownHeader, allLandmarks, landmarks_recordHeader short, (planNote_quiet record).allLandmarks_eq,
        List.append_nil]
  | some commit =>
      rw [known] at short
      rw [shownHeader, allLandmarks, landmarks_commitHeader short (hex.known commit known),
        (planNote_quiet record).allLandmarks_eq, List.append_nil]

theorem landmarks_missingNote (record : Record) (commit : Option Commit) :
    (missingNote record commit).flatMap Part.landmarks = [] := by
  cases commit <;> rfl

theorem landmarks_ownDiff (commit : Option Commit) : (ownDiff commit).flatMap Part.landmarks = [] := by
  cases commit <;> rfl

theorem landmarks_labelLine (label : Option Text) : (labelLine label).flatMap Part.landmarks = [] := by
  cases label with
  | none => rfl
  | some label =>
      rw [labelLine, List.flatMap_singleton, Part.landmarks_line]
      exact quiet_classed (by simp) ⟨rfl, rfl, trivial⟩

theorem landmarks_shownParts (hex : record.Hexadecimal commits) :
    (shownParts record (commits record.commit)).flatMap Part.landmarks = [headerTag] := by
  rw [shownParts, List.flatMap_append, landmarks_missingNote, List.flatMap_singleton, Part.landmarks,
    landmarks_shownHeader hex, List.nil_append]

theorem landmarks_commitParts (hex : record.Hexadecimal commits) (label : Option Text) :
    (shownParts record (commits record.commit) ++ labelLine label ++
      ownDiff (commits record.commit)).flatMap Part.landmarks = [headerTag] := by
  rw [List.flatMap_append, List.flatMap_append, landmarks_shownParts hex, landmarks_labelLine,
    landmarks_ownDiff, List.append_nil, List.append_nil]

theorem runHeader_quiet (hex : first.commit.Hexadecimal) (hexLast : last.commit.Hexadecimal) (count : Text) :
    (runHeader count (spanOf first last) first last).landmarks = [] := by
  have noTag : '<' ∉ spanOf first last := (spanOf_bare hex hexLast).angles.1
  refine quiet_classed (by simp) ⟨rfl, rfl, rfl, ?_, trivial⟩
  exact quiet_element (by simp) (by decide) ⟨landmarksIn_of_notMem noTag, trivial⟩

theorem landmarks_squashedDiff (commit : Option Commit) (last : Record) :
    (squashedDiff commit last).landmarks = [] := by
  cases commit <;> rfl

theorem landmarks_squashedList (hex : ∀ record ∈ records, record.Hexadecimal commits) :
    (squashedList (records.map fun record =>
      Html.plain "li" (shownHeader record (commits record.commit)))).landmarks =
      records.map fun _ => headerTag := by
  have item (record : Record) (member : record ∈ records) :
      (Html.plain "li" (shownHeader record (commits record.commit))).landmarks = [headerTag] :=
    (landmarks_plain (by simp) _).trans (landmarks_shownHeader (hex record member))
  rw [squashedList, landmarks_classed (by simp), allLandmarks, allLandmarks_lines, allLandmarks_eq_flatMap,
    List.flatMap_map, List.flatMap_congr item, List.map_eq_flatMap]
  rfl

theorem reasonNode_quiet (record : Record) : (reasonNode record).landmarks = [] :=
  quiet_classed (by simp) ⟨rfl, rfl, trivial⟩

theorem scopeNode_quiet : scopeNode.landmarks = [] :=
  quiet_classed (by simp) ⟨rfl, trivial⟩

theorem sectionOpening_quiet (sectionLabel : Text) : (sectionOpening sectionLabel).landmarks = [] := by
  refine quiet_classed (by simp) ⟨?_, rfl, ?_, trivial⟩
  · exact quiet_plain (by simp) ⟨rfl, rfl, trivial⟩
  · exact quiet_classed (by simp) ⟨rfl, trivial⟩

theorem sectionClosing_quiet (sectionLabel : Text) : (sectionClosing sectionLabel).landmarks = [] :=
  quiet_classed (by simp) ⟨rfl, rfl, trivial⟩

theorem landmarks_bundled (hex : ∀ record ∈ records, record.Hexadecimal commits) (sectionLabel : Text) :
    (records.map fun record => Entry.member (shownParts record (commits record.commit) ++
      labelLine (ownLabel sectionLabel record) ++ ownDiff (commits record.commit))).flatMap
        (fun entry => entry.parts.flatMap Part.landmarks) = records.map fun _ => headerTag := by
  rw [List.flatMap_map, List.map_eq_flatMap]
  exact List.flatMap_congr fun record member => landmarks_commitParts (hex record member) _

/-- Each block of hexadecimal hashes has an outline, with one header for each of its records. -/
theorem exists_headed_outline (block : Block)
    (hex : ∀ record ∈ block.records, record.Hexadecimal commits) :
    ∃ outline, block.outline? commits = some outline ∧
      outline.parts.flatMap Part.landmarks = block.records.map fun _ => headerTag := by
  cases block with
  | single record =>
      have known := hex record (List.mem_singleton_self record)
      refine ⟨_, singleOutline_eq known, ?_⟩
      rw [parts_ofParts, List.flatMap_append, landmarks_shownParts known, landmarks_ownDiff]
      rfl
  | dropped record =>
      have known := hex record (List.mem_singleton_self record)
      refine ⟨_, droppedOutline_eq known, ?_⟩
      rw [parts_ofParts, List.flatMap_append, landmarks_shownParts known, List.flatMap_singleton,
        Part.landmarks_line, reasonNode_quiet]
      rfl
  | squashRun records =>
      cases records with
      | nil => exact ⟨_, rfl, rfl⟩
      | cons opener rest =>
          have inside : ∀ record ∈ opener :: rest, record.Hexadecimal commits := hex
          obtain ⟨last, isLast⟩ := Option.isSome_iff_exists.mp
            (List.getLast?_isSome.mpr (List.cons_ne_nil opener rest))
          have start := (hex opener List.mem_cons_self).named
          have stop := (hex last (List.mem_of_getLast? isLast)).named
          have notes : ((opener :: rest).flatMap fun record =>
              missingNote record (commits record.commit)).flatMap Part.landmarks = [] := by
            rw [List.flatMap_assoc, List.flatMap_eq_nil_iff]
            exact fun record _ => landmarks_missingNote record _
          refine ⟨_, squashOutline_eq hex isLast, ?_⟩
          rw [parts_ofParts, List.cons_append, List.flatMap_cons, List.flatMap_append, notes]
          simp only [List.flatMap_cons, List.flatMap_nil, Part.landmarks_line, runHeader_quiet start stop,
            landmarks_squashedDiff, landmarks_squashedList inside, scopeNode_quiet, List.nil_append,
            List.append_nil]
          rfl
  | bundleRun sectionLabel records =>
      have inside : ∀ record ∈ records, record.Hexadecimal commits := hex
      refine ⟨_, bundleOutline_eq hex, ?_⟩
      rw [Outline.parts, List.flatMap_assoc, List.flatMap_append, List.flatMap_cons, List.flatMap_singleton,
        landmarks_bundled inside]
      simp only [Entry.parts, List.flatMap_singleton, Part.landmarks_line, sectionOpening_quiet,
        sectionClosing_quiet, List.nil_append, List.append_nil]
      rfl

/-- The section of a block with a number, and the headers in it. -/
def landmarks (number : Nat) (block : Block) : List Text :=
  sectionTag block.kind number :: block.records.map fun _ => headerTag

/-- The landmarks of blocks that are numbered from the given number. -/
def allLandmarks (number : Nat) : List Block → List Text
  | [] => []
  | block :: rest => block.landmarks number ++ allLandmarks (number + 1) rest

theorem mem_landmarks {number : Nat} {block : Block} {tag : Text} (member : tag ∈ block.landmarks number) :
    tag = sectionTag block.kind number ∨ tag = headerTag := by
  rcases List.mem_cons.mp member with isSection | isHeader
  · exact .inl isSection
  · obtain ⟨_, _, same⟩ := List.mem_map.mp isHeader
    exact .inr same.symm

theorem filter_section_landmarks (number : Nat) (block : Block) :
    (block.landmarks number).filter isSectionTag = [sectionTag block.kind number] := by
  have none : (block.records.map fun _ => headerTag).filter isSectionTag = [] := by
    rw [List.filter_eq_nil_iff, List.forall_mem_map]
    exact fun _ _ => Bool.not_eq_true _ ▸ landmark_headerTag.1
  rw [landmarks, List.filter_cons_of_pos (landmark_sectionTag block.kind number).1, none]

theorem filter_header_landmarks (number : Nat) (block : Block) :
    (block.landmarks number).filter isHeaderTag = block.records.map fun _ => headerTag := by
  have all : (block.records.map fun _ => headerTag).filter isHeaderTag = block.records.map fun _ => headerTag := by
    rw [List.filter_eq_self, List.forall_mem_map]
    exact fun _ _ => landmark_headerTag.2.1
  have noHeader := (landmark_sectionTag block.kind number).2.1
  rw [landmarks, List.filter_cons_of_neg (Bool.not_eq_true _ ▸ noHeader), all]

theorem sections_allLandmarks (number : Nat) (blocks : List Block) :
    (allLandmarks number blocks).filter isSectionTag =
      blocks.mapIdx fun place block => sectionTag block.kind (place + number) := by
  induction blocks generalizing number with
  | nil => rfl
  | cons block rest ih =>
      rw [allLandmarks, List.filter_append, filter_section_landmarks, ih, List.mapIdx_cons]
      simp only [Nat.zero_add, Nat.add_assoc, Nat.add_comm 1, List.singleton_append]

theorem headers_allLandmarks (number : Nat) (blocks : List Block) :
    (allLandmarks number blocks).filter isHeaderTag =
      (blocks.flatMap Block.records).map fun _ => headerTag := by
  induction blocks generalizing number with
  | nil => rfl
  | cons block rest ih =>
      rw [allLandmarks, List.filter_append, filter_header_landmarks, ih, List.flatMap_cons, List.map_append]

end Block

namespace Fragment

variable {history : History} {part : Part} {entry : Entry} {base : DiffBase} {child : Text}
  {nodes : List Html} {block : Block} {blocks : List Block} {body : Body} {bodies : List Body}
  {fragment : Fragment} {fragments : List Fragment} {number : Nat}

theorem landmarks_note (note : Text) : allLandmarks (Body.failure note).nodes = [failureTag] := by
  have inner : AllQuiet [Html.text note] := ⟨rfl, trivial⟩
  rw [Body.failure, allLandmarks, landmarks_failure inner]
  rfl

theorem landmarks_html (nodes : List Html) : allLandmarks (Body.html nodes).nodes = allLandmarks nodes := by
  rw [Body.html, allLandmarks_append]
  exact List.append_nil _

theorem escapedHtml_quiet (text : Text) : (Markup.escapedHtml text).landmarks = [] := by
  refine quiet_classed (by simp) ?_
  rw [allQuiet_iff, List.forall_mem_flatMap]
  rintro ⟨kind, line⟩ _
  rw [Markup.ofLine, List.forall_mem_cons, List.forall_mem_singleton]
  refine ⟨?_, rfl⟩
  cases kind <;> exact quiet_classed (by simp [DiffLineKind.className]) ⟨rfl, trivial⟩

theorem diffNodes_quiet (made : diffNodes? history .escaped base child = some nodes) : AllQuiet nodes := by
  obtain rfl | ⟨patch, rfl⟩ := diffNodes_escaped made
  · exact ⟨quiet_classed (by simp) ⟨rfl, trivial⟩, trivial⟩
  · exact ⟨quiet_classed (by simp) ⟨rfl, trivial⟩, rfl, escapedHtml_quiet _, trivial⟩

theorem landmarks_part (made : partBody history .escaped part = some body)
    (headers : ∀ tag ∈ part.landmarks, tag = headerTag) :
    Tells (allLandmarks body.nodes) part.landmarks body.fallbacks := by
  cases part with
  | html nodes =>
      cases made
      rw [landmarks_html]
      exact .of_no_failure fun tag member => headers tag member ▸ landmark_headerTag.2.2.1
  | failure note =>
      cases made
      rw [landmarks_note]
      exact .failure
  | diff base child =>
      obtain ⟨nodes, diffed, rfl⟩ | ⟨_, note, rfl⟩ := diffBody_cases made
      · rw [landmarks_html, (diffNodes_quiet diffed).allLandmarks_eq]
        exact .of_no_failure (List.forall_mem_nil _)
      · rw [landmarks_note]
        exact .failure

theorem landmarks_bodies {α : Type} {read : α → Option Body} {own : α → List Text} {items : List α}
    (each : ∀ item ∈ items, ∀ body, read item = some body →
      Tells (allLandmarks body.nodes) (own item) body.fallbacks)
    (made : items.mapM read = some bodies) :
    Tells (allLandmarks (Body.concat bodies).nodes) (items.flatMap own) (Body.concat bodies).fallbacks := by
  -- The bodies go with the items one by one, so the induction is on the pairs.
  have pairs := forall₂_of_mapM made
  clear made
  induction pairs with
  | nil => exact .of_no_failure (List.forall_mem_nil _)
  | cons here _ ih =>
      rw [List.forall_mem_cons] at each
      rw [Body.concat] at ih ⊢
      rw [List.flatMap_cons, List.flatMap_cons, allLandmarks_append]
      exact (each.1 _ here).append (ih each.2)

theorem landmarks_entry (made : entryBody history .escaped entry = some body)
    (headers : ∀ part ∈ entry.parts, ∀ tag ∈ part.landmarks, tag = headerTag) :
    Tells (allLandmarks body.nodes) (entry.parts.flatMap Part.landmarks) body.fallbacks := by
  cases entry with
  | line part =>
      rw [Entry.parts, List.flatMap_singleton]
      exact landmarks_part made (headers part (List.mem_singleton_self part))
  | member parts =>
      obtain ⟨bodies, read, rfl⟩ := memberBody_cases made
      have article : allLandmarks [Html.classed "article" "bundle-member"
          (Html.newline :: (Body.concat bodies).nodes), Html.newline] =
          allLandmarks (Body.concat bodies).nodes := by
        rw [allLandmarks, landmarks_classed (by simp), allLandmarks]
        exact List.append_nil _
      rw [article]
      exact landmarks_bodies (fun part inside _ made => landmarks_part made (headers part inside)) read

theorem landmarks_section (kind : BlockKind) (number : Nat) (nodes : List Html) :
    (sectionHtml kind (anchorOf number) nodes).landmarks = sectionTag kind number :: allLandmarks nodes := by
  have isOne : isLandmark (sectionTag kind number) = true := by
    rw [isLandmark, (landmark_sectionTag kind number).1, Bool.true_or, Bool.true_or, Bool.true_or]
  have written : (sectionHtml kind (anchorOf number) nodes).landmarks =
      [sectionTag kind number].filter isLandmark ++ allLandmarks (Html.newline :: nodes) := rfl
  rw [written, filter_landmark isOne]
  rfl

/-- The fragment of a block is one section with a header for each record, and with as many notes
on failures as are counted. -/
theorem landmarks_ofBlock (hex : ∀ record ∈ block.records, record.Hexadecimal history.commit?)
    (made : ofBlock? history .escaped number block = some fragment) :
    Tells (landmarksIn fragment.html) (block.landmarks number) fragment.fallbacks := by
  obtain ⟨outline, bodies, outlined, read, rfl⟩ := ofBlock?_eq_some_iff.mp made
  obtain ⟨same, outlinedToo, headed⟩ := Block.exists_headed_outline block hex
  rw [outlined, Option.some.injEq] at outlinedToo
  subst same
  have headers : ∀ entry ∈ outline.entries, ∀ part ∈ entry.parts, ∀ tag ∈ part.landmarks, tag = headerTag := by
    intro entry inside part among tag member
    have listed : tag ∈ outline.parts.flatMap Part.landmarks :=
      List.mem_flatMap_of_mem (List.mem_flatMap_of_mem inside among) member
    rw [headed] at listed
    obtain ⟨_, _, same⟩ := List.mem_map.mp listed
    exact same.symm
  have inner := landmarks_bodies (fun entry inside _ made => landmarks_entry made (headers entry inside)) read
  rw [← List.flatMap_assoc, ← Outline.parts, headed] at inner
  have shown : landmarksIn (ofBodies number block outline.title bodies).html =
      [sectionTag block.kind number] ++ allLandmarks (Body.concat bodies).nodes := by
    rw [ofBodies, AllSound.landmarksIn_renderAll _ (ofBlock?_sound hex outlined read number), allLandmarks,
      landmarks_section]
    exact List.append_nil _
  have opening : Tells [sectionTag block.kind number] [sectionTag block.kind number] 0 :=
    .of_no_failure (List.forall_mem_singleton.mpr (landmark_sectionTag block.kind number).2.2.1)
  have whole := opening.append inner
  rw [Nat.zero_add] at whole
  rw [shown]
  exact whole

/-- Apart from notes on failures, the landmarks of fragments are those of their blocks. -/
theorem landmarks_ofBlocks
    (hex : ∀ block ∈ blocks, ∀ record ∈ block.records, record.Hexadecimal history.commit?)
    (made : ofBlocksFrom? history .escaped number blocks = some fragments) :
    Tells (fragments.flatMap fun fragment => landmarksIn fragment.html) (Block.allLandmarks number blocks)
      (fragments.map Fragment.fallbacks).sum := by
  induction blocks generalizing number fragments with
  | nil =>
      cases made
      exact .of_no_failure (List.forall_mem_nil _)
  | cons block rest ih =>
      rw [List.forall_mem_cons] at hex
      obtain ⟨fragment, here, made⟩ := Option.bind_eq_some_iff.mp made
      obtain ⟨following, later, whole⟩ := Option.bind_eq_some_iff.mp made
      cases whole
      rw [List.flatMap_cons, Block.allLandmarks, List.map_cons, List.sum_cons]
      exact (landmarks_ofBlock hex.1 here).append (ih hex.2 later)

end Fragment

namespace Report

variable {report : Report} {fragments : List Fragment} {commit : ShownHash} {history : History}
  {blocks : List Block}

theorem rangeEnd_quiet (hexShort : commit.short.Hexadecimal) : (rangeEnd commit).landmarks = [] :=
  quiet_element (by simp) (by decide) ⟨Block.quiet_hexadecimal hexShort, trivial⟩

theorem headNodes_quiet (report : Report) : AllQuiet report.headNodes := by
  have charset : landmarksIn "<meta charset=\"utf-8\">".toList = [] := by decide +kernel
  have rules : landmarksIn stylesheet = [] := landmarksIn_of_notMem stylesheet_bare.angles.1
  exact ⟨rfl, charset, rfl, quiet_plain (by simp) ⟨rfl, trivial⟩, rfl,
    quiet_plain (by simp) ⟨rfl, rules, trivial⟩, rfl, trivial⟩

theorem headerNodes_quiet (base : (rangeEnd report.base).landmarks = [])
    (tip : (rangeEnd report.tip).landmarks = []) : AllQuiet report.headerNodes := by
  refine ⟨rfl, quiet_plain (by simp) ⟨rfl, trivial⟩, rfl, ?_, rfl, trivial⟩
  exact quiet_classed (by simp) ⟨rfl, base, rfl, tip, rfl, Block.quiet_middot, rfl, Block.quiet_middot,
    rfl, trivial⟩

theorem noticeNodes_quiet (notices : List Text) : AllQuiet (noticeNodes notices) := by
  unfold noticeNodes
  split
  · trivial
  · have each : AllQuiet (notices.map noticeNode) :=
      allQuiet_iff.mpr (List.forall_mem_map.mpr fun notice _ => quiet_classed (by simp) ⟨rfl, trivial⟩)
    exact ⟨quiet_classed (by simp) ⟨rfl, each.lines⟩, rfl, trivial⟩

theorem landmarks_contentsEntry (fragment : Fragment) :
    (contentsEntry fragment).landmarks = [linkTag fragment.anchor] := by
  have isOne : isLandmark (linkTag fragment.anchor) = true := by
    rw [isLandmark, (landmark_linkTag fragment.anchor).2.2.2, Bool.or_true]
  have written : (Html.element "a".toList [("href".toList, '#' :: fragment.anchor)]
      [.text fragment.title]).landmarks = [linkTag fragment.anchor].filter isLandmark ++ [] := rfl
  rw [contentsEntry, landmarks_plain (by simp), allLandmarks, written, filter_landmark isOne]
  rfl

theorem landmarks_contents (fragments : List Fragment) :
    allLandmarks (contentsNodes fragments) = fragments.map fun fragment => linkTag fragment.anchor := by
  have heading : (Html.plain "h2" [Html.string "Contents"]).landmarks = [] :=
    quiet_plain (by simp) ⟨rfl, trivial⟩
  have list : (Html.plain "ol" (Html.newline :: Html.lines (fragments.map contentsEntry))).landmarks =
      fragments.map fun fragment => linkTag fragment.anchor := by
    rw [landmarks_plain (by simp), allLandmarks, allLandmarks_lines, allLandmarks_eq_flatMap,
      List.flatMap_map, List.flatMap_congr fun fragment _ => landmarks_contentsEntry fragment,
      List.map_eq_flatMap]
    rfl
  rw [contentsNodes, allLandmarks, landmarks_classed (by simp)]
  simp only [allLandmarks, landmarks_newline, heading, list, List.nil_append, List.append_nil]

/-- What stands in the main part: a link to each fragment, and then the fragments. -/
def mainLandmarks (fragments : List Fragment) : List Text :=
  fragments.map (fun fragment => linkTag fragment.anchor) ++
    fragments.flatMap fun fragment => landmarksIn fragment.html

theorem landmarks_main (fragments : List Fragment) :
    allLandmarks (mainNodes fragments) = mainLandmarks fragments := by
  unfold mainNodes
  split
  · rename_i isEmpty
    rw [isEmpty]
    exact AllQuiet.allLandmarks_eq ⟨quiet_classed (by simp) ⟨rfl, trivial⟩, rfl, trivial⟩
  · rw [allLandmarks_append, landmarks_contents, fragmentNodes, allLandmarks, landmarks_plain (by simp),
      allLandmarks, allLandmarks_eq_flatMap, List.flatMap_map]
    exact congrArg _ (List.append_nil _)

theorem doctype_quiet : (Html.markup "<!DOCTYPE html>".toList).landmarks = [] := by
  decide +kernel

theorem htmlTag_quiet :
    isLandmark ("html".toList ++ renderAttributes [("lang".toList, "en".toList)]) = false :=
  quiet_start (by simp) (by decide) _

theorem head_quiet (report : Report) : (Html.plain "head" report.headNodes).landmarks = [] :=
  quiet_plain (by simp) (headNodes_quiet report)

theorem top_quiet (hexBase : report.base.short.Hexadecimal) (hexTip : report.tip.short.Hexadecimal) :
    AllQuiet ([Html.newline, Html.plain "header" report.headerNodes, Html.newline] ++
      noticeNodes report.notices) := by
  have header : (Html.plain "header" report.headerNodes).landmarks = [] :=
    quiet_plain (by simp) (headerNodes_quiet (rangeEnd_quiet hexBase) (rangeEnd_quiet hexTip))
  exact AllQuiet.append ⟨rfl, header, rfl, trivial⟩ (noticeNodes_quiet report.notices)

/-- The landmarks of a report are the links of its contents and those of its fragments. -/
theorem landmarks_html (sound : AllSound report.documentNodes)
    (hexBase : report.base.short.Hexadecimal) (hexTip : report.tip.short.Hexadecimal) :
    landmarksIn report.html = mainLandmarks report.fragments := by
  have body : (Html.plain "body" ([Html.newline, Html.plain "header" report.headerNodes, Html.newline] ++
      noticeNodes report.notices ++ mainNodes report.fragments)).landmarks =
        mainLandmarks report.fragments := by
    rw [landmarks_plain (by simp), allLandmarks_append, (top_quiet hexBase hexTip).allLandmarks_eq,
      List.nil_append, landmarks_main]
  rw [html, AllSound.landmarksIn_renderAll _ sound, documentNodes, allLandmarks, doctype_quiet]
  simp only [allLandmarks, landmarks, filter_quiet htmlTag_quiet, head_quiet, body, landmarks_newline,
    List.nil_append, List.append_nil]

theorem filter_mainLandmarks {isOne : Text → Bool} (notLink : ∀ anchor, isOne (linkTag anchor) = false)
    (fragments : List Fragment) : (mainLandmarks fragments).filter isOne =
      (fragments.flatMap fun fragment => landmarksIn fragment.html).filter isOne := by
  have none : (fragments.map fun fragment => linkTag fragment.anchor).filter isOne = [] := by
    rw [List.filter_eq_nil_iff, List.forall_mem_map]
    exact fun fragment _ => Bool.not_eq_true _ ▸ notLink fragment.anchor
  rw [mainLandmarks, List.filter_append, none, List.nil_append]

/-- A report on blocks of hexadecimal hashes has a section for each of them, in order, and a header
for each of their records. -/
theorem shows_blocks
    (hex : ∀ block ∈ blocks, ∀ record ∈ block.records, record.Hexadecimal history.commit?)
    (made : Fragment.ofBlocks? history .escaped blocks = some report.fragments)
    (hexBase : report.base.hash.Hexadecimal ∧ report.base.short.Hexadecimal)
    (hexTip : report.tip.hash.Hexadecimal ∧ report.tip.short.Hexadecimal) :
    sectionsIn report.html = blocks.mapIdx (fun place block => sectionTag block.kind (place + 1)) ∧
      headersIn report.html = (blocks.flatMap Block.records).map fun _ => headerTag := by
  have sound := Fragment.sound_of_made hex made
  have main : AllSound (mainNodes report.fragments) :=
    mainNodes_sound (fun fragment member => (sound fragment member).1)
      fun fragment member => (sound fragment member).2
  have whole : AllSound report.documentNodes :=
    documentNodes_sound (rangeEnd_sound hexBase.1 hexBase.2) (rangeEnd_sound hexTip.1 hexTip.2) main
  have tells := Fragment.landmarks_ofBlocks hex made
  rw [sectionsIn_eq, headersIn_eq, landmarks_html whole hexBase.2 hexTip.2,
    filter_mainLandmarks (fun anchor => (landmark_linkTag anchor).1),
    filter_mainLandmarks (fun anchor => (landmark_linkTag anchor).2.1),
    tells.filter_eq landmark_failureTag.1, tells.filter_eq landmark_failureTag.2.1]
  exact ⟨Block.sections_allLandmarks 1 blocks, Block.headers_allLandmarks 1 blocks⟩

end Report

end CuratedHistory
