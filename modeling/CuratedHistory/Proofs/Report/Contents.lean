import CuratedHistory.Proofs.Report.Links
import CuratedHistory.Proofs.Report.Sections

namespace CuratedHistory

/-! The contents of a report and its sections belong together: each entry leads to the one section
with its id, in the same order, and no other link and no other id is in the document. -/

open Html

/-- How an id is written in a tag. -/
def idMark : Text :=
  " id=\"".toList

/-- The ids in a tag. -/
def idsOf (tag : Text) : List Text :=
  (textsAfter idMark tag).map fun behind => behind.takeWhile (· ≠ '"')

/-- The ids of all elements in a text, in order. -/
def idsIn (html : Text) : List Text :=
  (tagsIn html).flatMap idsOf

theorem idMark_eq : idMark = ' ' :: ("id".toList ++ ['=', '"']) := by
  decide

theorem renderAttributes_concat (attributes : List (Text × Text)) (name value : Text) :
    renderAttributes (attributes ++ [(name, value)]) =
      renderAttributes attributes ++ (' ' :: (name ++ ['=', '"']) ++ (value ++ ['"'])) := by
  simp [renderAttributes]

theorem idsOf_sectionTag (kind : BlockKind) (number : Nat) :
    idsOf (sectionTag kind number) = [Fragment.anchorOf number] := by
  have noBlank := Fragment.notMem_anchorOf (by decide : ' ' ∉ "block-".toList) (by decide) number
  have noQuote := Fragment.notMem_anchorOf (by decide : '"' ∉ "block-".toList) (by decide) number
  have front : Shows idMark ("section".toList ++
      renderAttributes [("class".toList, (Fragment.kindClass kind).toList)]) [] := by
    intro rest
    cases kind <;> rfl
  have back : Shows idMark ("id".toList ++ ['=', '"'] ++ (Fragment.anchorOf number ++ ['"'])) [] := by
    rw [idMark_eq]
    exact .of_absent (by simp [noBlank])
  have noTag : ∀ c ∈ Fragment.anchorOf number ++ ['"'], decide (c ≠ '<') = true := by
    intro c member
    rw [decide_eq_true_eq]
    rintro rfl
    simp [(Fragment.anchorOf_noAngle number).1] at member
  have written : sectionTag kind number = "section".toList ++
      renderAttributes [("class".toList, (Fragment.kindClass kind).toList)] ++
        (idMark ++ (Fragment.anchorOf number ++ ['"'])) := by
    have attributes := renderAttributes_concat [("class".toList, (Fragment.kindClass kind).toList)]
      "id".toList (Fragment.anchorOf number)
    rw [idMark_eq, List.append_assoc, ← attributes]
    rfl
  have found := textsAfter_mark ' ' ("id".toList ++ ['=', '"']) (Fragment.anchorOf number ++ ['"'])
  rw [← idMark_eq, back.textsAfter_eq, List.takeWhile_eq_self_iff.mpr noTag] at found
  rw [idsOf, written, front, found]
  exact congrArg (fun id => [id]) (Text.takeWhile_ne_append noQuote [])

theorem idsOf_append {front rest : Text} (shows : Shows idMark front []) (absent : ' ' ∉ rest) :
    idsOf (front ++ rest) = [] := by
  have back : Shows idMark rest [] := by
    rw [idMark_eq]
    exact .of_absent absent
  rw [idsOf, (shows.append back).textsAfter_eq]
  rfl

/-- No other tag gives an id to its element. -/
theorem idsOf_own {tag : Text} (own : OwnTag tag) (other : isSectionTag tag = false) : idsOf tag = [] := by
  have code : Shows idMark "code title=\"".toList [] := fun _ => rfl
  cases own with
  | fixed listed =>
      have all : ∀ tag ∈ fixedTags, idsOf tag.toList = [] := by decide +kernel
      exact all _ listed
  | close listed =>
      have all : ∀ name ∈ elementNames, idsOf ('/' :: name.toList) = [] := by decide +kernel
      exact all _ listed
  | block listed number =>
      have start : "section".toList ++ [' '] <+: "section class=\"".toList := by decide
      simp only [List.append_assoc] at other
      rw [isSectionTag, elementName_of_start (by decide) (start.trans (List.prefix_append _ _))] at other
      contradiction
  | link number =>
      have link : Shows idMark "a href=\"#block-".toList [] := fun _ => rfl
      have noDigit : ' ' ∉ Decimal.digits number :=
        fun member => absurd (Decimal.isDigit_of_mem member) (by decide)
      rw [List.append_assoc]
      exact idsOf_append link (by simp [noDigit])
  | commit hex =>
      have noBlank := hex.notMem (by decide : isHexDigit ' ' = false)
      rw [List.append_assoc]
      exact idsOf_append code (by simp [noBlank])
  | span hex hexLast =>
      have noBlank := hex.notMem (by decide : isHexDigit ' ' = false)
      have noBlankToo := hexLast.notMem (by decide : isHexDigit ' ' = false)
      rw [List.append_assoc, List.append_assoc, List.append_assoc]
      exact idsOf_append code (by simp [noBlank, noBlankToo])

theorem ownTag_of_mem {text : Text} (tags : EachBegins '<' IsTag text) :
    ∀ tag ∈ tagsIn text, OwnTag tag := by
  induction text with
  | nil => exact List.forall_mem_nil _
  | cons c rest ih =>
      rw [tagsIn]
      split
      · rename_i isAngle
        subst isAngle
        obtain ⟨_, ⟨inside, own, rfl⟩, later, whole⟩ := tags [] rest rfl
        rw [tagOf, List.cons_append, List.cons.injEq, List.append_assoc] at whole
        refine List.forall_mem_cons.mpr ⟨?_, ih tags.tail⟩
        rwa [← whole.2, List.singleton_append, Text.takeWhile_ne_append own.bare.angles.2]
      · exact ih tags.tail

/-- All ids of a report are those of its sections. -/
theorem idsIn_eq {html : Text} (tags : EachBegins '<' IsTag html) :
    idsIn html = (sectionsIn html).flatMap idsOf := by
  have own := ownTag_of_mem tags
  rw [idsIn, sectionsIn]
  generalize tagsIn html = found at own
  induction found with
  | nil => rfl
  | cons tag rest ih =>
      rw [List.forall_mem_cons] at own
      cases isSection : isSectionTag tag with
      | true => rw [List.filter_cons_of_pos isSection, List.flatMap_cons, List.flatMap_cons, ih own.2]
      | false =>
          rw [List.filter_cons_of_neg (Bool.not_eq_true _ ▸ isSection), List.flatMap_cons, ih own.2,
            idsOf_own own.1 isSection, List.nil_append]

/-- A piece of a report with nothing in it that is looked for. -/
structure Quiet (text : Text) : Prop where
  tags : EachBegins '<' IsTag text
  landmarks : landmarksIn text = []

namespace Quiet

variable {text following inside : Text} {nodes : List Html}

theorem append (one : Quiet text) (another : Quiet following) : Quiet (text ++ following) where
  tags := one.tags.append another.tags
  landmarks := by rw [landmarksIn_append one.tags, one.landmarks, another.landmarks, List.append_nil]

theorem of_tag (own : OwnTag inside) (quiet : isLandmark inside = false) : Quiet (tagOf inside) where
  tags := (WellFormed.tag own).1
  landmarks := by rw [landmarksIn_tag own, filter_quiet quiet]

theorem of_nodes (sound : AllSound nodes) (quiet : AllQuiet nodes) : Quiet (renderAll nodes) where
  tags := (AllSound.wellFormed nodes sound).tags
  landmarks := by rw [AllSound.landmarksIn_renderAll nodes sound, quiet.allLandmarks_eq]

theorem shows (quiet : Quiet text) : Shows linkMark text [] :=
  shows_no_link_of_landmarks quiet.tags (by rw [quiet.landmarks, List.filter_nil])

end Quiet

/-- The HTML is one section, which has the id. -/
def IsSection (id html : Text) : Prop :=
  ∃ tag inner, html = tagOf tag ++ inner ++ "</section>\n".toList ∧ sectionsIn html = [tag] ∧ idsOf tag = [id]

namespace Fragment

variable {history : History} {markup : Markup} {block : Block} {blocks : List Block} {fragment : Fragment}
  {fragments : List Fragment} {number : Nat}

theorem anchorOf_injective : Function.Injective anchorOf :=
  fun _ _ same => Decimal.digits_injective (List.append_cancel_left same)

theorem anchors_of_made (made : ofBlocksFrom? history markup number blocks = some fragments) :
    fragments.map Fragment.anchor = (List.range' number blocks.length).map anchorOf := by
  have places := congrArg (List.map Prod.fst) (places_of_made made)
  rw [List.map_map] at places
  exact places.trans (List.ext_getElem (by simp) (by simp [Nat.add_comm]))

theorem anchors_nodup (made : ofBlocksFrom? history markup number blocks = some fragments) :
    (fragments.map Fragment.anchor).Nodup := by
  rw [anchors_of_made made]
  exact List.Nodup.map anchorOf_injective (List.nodup_range' 1)

/-- The ids of the sections of blocks are the anchors of their fragments. -/
theorem ids_of_made (made : ofBlocksFrom? history markup number blocks = some fragments) :
    (blocks.mapIdx fun place block => sectionTag block.kind (place + number)).map idsOf =
      fragments.map fun fragment => [fragment.anchor] := by
  have anchors := congrArg (List.map fun anchor => [anchor]) (anchors_of_made made)
  rw [List.map_map, List.map_map] at anchors
  refine Eq.trans (List.ext_getElem (by simp) ?_) anchors.symm
  simp [idsOf_sectionTag, Nat.add_comm]

theorem isSection_of_made (hex : ∀ record ∈ block.records, record.Hexadecimal history.commit?)
    (made : ofBlock? history .escaped number block = some fragment) :
    IsSection fragment.anchor fragment.html := by
  have tags : sectionsIn fragment.html = [sectionTag block.kind number] := by
    rw [sectionsIn_eq, (landmarks_ofBlock hex made).filter_eq landmark_failureTag.1,
      Block.filter_section_landmarks]
  obtain ⟨outline, bodies, _, _, rfl⟩ := ofBlock?_eq_some_iff.mp made
  refine ⟨_, renderAll (Html.newline :: (Body.concat bodies).nodes), ?_, tags,
    idsOf_sectionTag block.kind number⟩
  have ending : closeTag "section".toList ++ ['\n'] = "</section>\n".toList := by decide
  rw [← ending, ← List.append_assoc]
  rfl

/-- No fragment has a link in it. -/
theorem shows_of_made (hex : ∀ record ∈ block.records, record.Hexadecimal history.commit?)
    (made : ofBlock? history .escaped number block = some fragment) : Shows linkMark fragment.html [] := by
  refine shows_no_link_of_landmarks (wellFormed_of_made hex made).tags ?_
  rw [(landmarks_ofBlock hex made).filter_eq landmark_failureTag.2.2.2, List.filter_eq_nil_iff]
  intro tag member
  rcases Block.mem_landmarks member with rfl | rfl
  · exact Bool.eq_false_iff.mp (landmark_sectionTag block.kind number).2.2.2
  · exact Bool.eq_false_iff.mp landmark_headerTag.2.2.2

theorem shows_flatMap (each : ∀ fragment ∈ fragments, Shows linkMark fragment.html []) :
    Shows linkMark (fragments.flatMap Fragment.html) [] := by
  induction fragments with
  | nil => exact .nil linkMark
  | cons fragment rest ih =>
      rw [List.forall_mem_cons] at each
      rw [List.flatMap_cons]
      exact each.1.append (ih each.2)

end Fragment

namespace Report

variable {report : Report} {fragments : List Fragment}

/-- What stands in a report before its contents. -/
def opening (report : Report) : Text :=
  renderAll [.markup "<!DOCTYPE html>".toList, Html.newline] ++
    openTag "html".toList [("lang".toList, "en".toList)] ++
    renderAll [Html.newline, Html.plain "head" report.headNodes, Html.newline] ++
    openTag "body".toList [] ++
    renderAll ([Html.newline, Html.plain "header" report.headerNodes, Html.newline] ++
      noticeNodes report.notices)

/-- What stands between the contents of a report and its fragments. -/
def mainOpening : Text :=
  openTag "main".toList [] ++ renderAll [Html.newline]

/-- What stands in a report after its fragments. -/
def closing : Text :=
  closeTag "main".toList ++ renderAll [Html.newline] ++ closeTag "body".toList ++
    renderAll [Html.newline] ++ closeTag "html".toList ++ renderAll [Html.newline]

theorem renderAll_markup (fragments : List Fragment) :
    renderAll (fragments.map fun fragment => .markup fragment.html) = fragments.flatMap Fragment.html := by
  induction fragments with
  | nil => rfl
  | cons fragment rest ih => rw [List.map_cons, renderAll, ih, render, List.flatMap_cons]

theorem html_eq (something : report.fragments ≠ []) :
    report.html = report.opening ++ renderAll (contentsNodes report.fragments) ++ mainOpening ++
      report.fragments.flatMap Fragment.html ++ closing := by
  simp only [html, documentNodes, opening, mainOpening, closing, mainNodes, if_neg something, fragmentNodes,
    renderAll_append, renderAll, render, Html.plain, renderAll_markup, List.append_assoc, List.append_nil]

theorem newline_quiet : Quiet (renderAll [Html.newline]) :=
  .of_nodes ⟨trivial, trivial⟩ ⟨rfl, trivial⟩

theorem open_quiet {name : String} (isQuiet : IsQuiet name) : Quiet (openTag name.toList []) := by
  have written : openTag name.toList [] = tagOf name.toList := by
    rw [openTag, renderAttributes, List.flatMap_nil, List.append_nil]
    rfl
  rw [written]
  exact .of_tag (.fixed isQuiet.1) (quiet_fixedTags name isQuiet.1 isQuiet.2.1 isQuiet.2.2)

theorem close_quiet {name : String} (listed : name ∈ elementNames) : Quiet (closeTag name.toList) :=
  .of_tag (.close listed) (quiet_close name.toList)

theorem opening_quiet (base : (rangeEnd report.base).Sound) (tip : (rangeEnd report.tip).Sound)
    (hexBase : report.base.short.Hexadecimal) (hexTip : report.tip.short.Hexadecimal) :
    Quiet report.opening := by
  have start : Quiet (renderAll [.markup "<!DOCTYPE html>".toList, Html.newline]) :=
    .of_nodes ⟨doctype_sound, trivial, trivial⟩ ⟨doctype_quiet, rfl, trivial⟩
  have document : Quiet (openTag "html".toList [("lang".toList, "en".toList)]) :=
    .of_tag htmlTag_own htmlTag_quiet
  have head : Quiet (renderAll [Html.newline, Html.plain "head" report.headNodes, Html.newline]) :=
    .of_nodes ⟨trivial, head_sound report, trivial, trivial⟩ ⟨rfl, head_quiet report, rfl, trivial⟩
  have body : Quiet (openTag "body".toList []) := open_quiet (by simp)
  have top := Quiet.of_nodes (top_sound base tip) (top_quiet hexBase hexTip)
  exact (((start.append document).append head).append body).append top

theorem mainOpening_quiet : Quiet mainOpening := by
  have main : Quiet (openTag "main".toList []) := open_quiet (by simp)
  exact main.append newline_quiet

theorem closing_quiet : Quiet closing := by
  have main : Quiet (closeTag "main".toList) := close_quiet (by simp)
  have body : Quiet (closeTag "body".toList) := close_quiet (by simp)
  have document : Quiet (closeTag "html".toList) := close_quiet (by simp)
  exact ((((main.append newline_quiet).append body).append newline_quiet).append document).append
    newline_quiet

theorem shows_newline : Shows linkMark Html.newline.render [] :=
  newline_quiet.shows

theorem shows_entries
    (anchored : ∀ fragment ∈ fragments, ∃ number, fragment.anchor = Fragment.anchorOf number) :
    Shows linkMark (renderAll (Html.lines (fragments.map contentsEntry)))
      (fragments.map fun fragment => linkTo fragment.anchor fragment.title) := by
  induction fragments with
  | nil => exact .nil linkMark
  | cons fragment rest ih =>
      rw [List.forall_mem_cons] at anchored
      obtain ⟨number, anchor⟩ := anchored.1
      have entry : Shows linkMark (contentsEntry fragment).render [linkTo fragment.anchor fragment.title] :=
        shows_element (contentsEntry_sound anchor) (by decide) (shows_link anchor fragment.title).singleton
      have line : Html.lines ((fragment :: rest).map contentsEntry) =
          contentsEntry fragment :: Html.newline :: Html.lines (rest.map contentsEntry) := rfl
      rw [line, List.map_cons]
      exact entry.cons (shows_newline.cons (ih anchored.2))

/-- The contents show a link to each fragment. -/
theorem shows_contents
    (anchored : ∀ fragment ∈ fragments, ∃ number, fragment.anchor = Fragment.anchorOf number) :
    Shows linkMark (renderAll (contentsNodes fragments))
      (fragments.map fun fragment => linkTo fragment.anchor fragment.title) := by
  obtain ⟨nav, _, _⟩ := contentsNodes_sound anchored
  have parts := nav.2.2
  obtain ⟨_, heading, _, list, _, _⟩ := parts
  have word : Quiet (renderAll [Html.string "Contents"]) := .of_nodes ⟨trivial, trivial⟩ ⟨rfl, trivial⟩
  have title : Shows linkMark (Html.plain "h2" [Html.string "Contents"]).render [] :=
    shows_element heading (by decide) word.shows
  have entries := shows_element list (by decide) (shows_newline.cons (shows_entries anchored))
  have inner := shows_newline.cons (title.cons (shows_newline.cons (entries.cons shows_newline.singleton)))
  have whole := (shows_element nav (by decide) inner).cons shows_newline.singleton
  simp only [List.nil_append, List.append_nil] at whole
  exact whole

theorem landmarks_before (anchored : ∀ fragment ∈ fragments, ∃ number, fragment.anchor = Fragment.anchorOf number)
    {front : Text} (quiet : Quiet front) :
    landmarksIn (front ++ renderAll (contentsNodes fragments) ++ mainOpening) =
      fragments.map fun fragment => linkTag fragment.anchor := by
  have sound := contentsNodes_sound anchored
  have tags := (AllSound.wellFormed _ sound).tags
  rw [landmarksIn_append (quiet.tags.append tags), landmarksIn_append quiet.tags, quiet.landmarks,
    AllSound.landmarksIn_renderAll _ sound, landmarks_contents, mainOpening_quiet.landmarks,
    List.nil_append, List.append_nil]

/-- The links of a report lead to its fragments, by their titles and in their order. The anchor of
a fragment is the id of one section and of nothing else. The fragments stand in the document as they
are, each of them one section, and there are no other sections. -/
structure Navigable (report : Report) : Prop where
  links : linksIn report.html = report.fragments.map fun fragment => (fragment.anchor, fragment.title)
  ids : idsIn report.html = report.fragments.map Fragment.anchor
  oneSection : ∀ fragment ∈ report.fragments,
    (sectionsIn report.html).countP (fun tag => idsOf tag = [fragment.anchor]) = 1
  eachSection : ∀ fragment ∈ report.fragments, IsSection fragment.anchor fragment.html
  verbatim : ∃ before after, report.html = before ++ report.fragments.flatMap Fragment.html ++ after ∧
    sectionsIn before = [] ∧ sectionsIn after = []

variable {history : History} {blocks : List Block}

theorem navigable (something : report.fragments ≠ [])
    (hex : ∀ block ∈ blocks, ∀ record ∈ block.records, record.Hexadecimal history.commit?)
    (made : Fragment.ofBlocks? history .escaped blocks = some report.fragments)
    (hexBase : report.base.hash.Hexadecimal ∧ report.base.short.Hexadecimal)
    (hexTip : report.tip.hash.Hexadecimal ∧ report.tip.short.Hexadecimal) : report.Navigable := by
  have sound := Fragment.sound_of_made hex made
  have anchored := fun fragment member => (sound fragment member).1
  have base := rangeEnd_sound hexBase.1 hexBase.2
  have tip := rangeEnd_sound hexTip.1 hexTip.2
  have quiet := opening_quiet base tip hexBase.2 hexTip.2
  have sections := (shows_blocks hex made hexBase hexTip).1
  have ids : (sectionsIn report.html).map idsOf = report.fragments.map fun fragment => [fragment.anchor] := by
    rw [sections]
    exact Fragment.ids_of_made made
  constructor
  case links =>
    have fragments : Shows linkMark (report.fragments.flatMap Fragment.html) [] := by
      refine Fragment.shows_flatMap fun fragment member => ?_
      obtain ⟨block, inside, place, here⟩ := Fragment.exists_block_of_made made member
      exact Fragment.shows_of_made (hex block inside) here
    have whole := (((quiet.shows.append (shows_contents anchored)).append mainOpening_quiet.shows).append
      fragments).append closing_quiet.shows
    rw [← html_eq something] at whole
    rw [linksIn, whole.textsAfter_eq]
    simp only [List.nil_append, List.append_nil, List.map_map]
    refine List.map_congr_left fun fragment member => ?_
    obtain ⟨number, anchor⟩ := anchored fragment member
    refine readLink_linkTo ?_ fragment.title
    rw [anchor]
    exact Fragment.notMem_anchorOf (by decide) (by decide) number
  case ids =>
    have wellFormed : WellFormed report.html := AllSound.wellFormed _ (documentNodes_sound base tip
      (mainNodes_sound anchored fun fragment member => (sound fragment member).2))
    rw [idsIn_eq wellFormed.tags, List.flatMap_def, ids, ← List.flatMap_def, List.map_eq_flatMap]
  case oneSection =>
    intro fragment member
    have one := List.count_eq_one_of_mem (Fragment.anchors_nodup made) (List.mem_map_of_mem member)
    have mapped : (sectionsIn report.html).countP (fun tag => idsOf tag = [fragment.anchor]) =
        ((sectionsIn report.html).map idsOf).countP (fun ids => ids = [fragment.anchor]) := by
      rw [List.countP_map]
      rfl
    rw [mapped, ids, List.countP_map, ← one, List.count, List.countP_map]
    exact List.countP_congr fun other _ => by simp
  case eachSection =>
    intro fragment member
    obtain ⟨block, inside, place, here⟩ := Fragment.exists_block_of_made made member
    exact Fragment.isSection_of_made (hex block inside) here
  case verbatim =>
    refine ⟨_, closing, html_eq something, ?_, ?_⟩
    · rw [sectionsIn_eq, landmarks_before anchored quiet, List.filter_eq_nil_iff, List.forall_mem_map]
      exact fun fragment _ => Bool.eq_false_iff.mp (landmark_linkTag fragment.anchor).1
    · rw [sectionsIn_eq, closing_quiet.landmarks, List.filter_nil]

end Report

variable {history : History} {blocks : List Block} {base tip : Text}

/-- The contents of a report and its sections match one to one. Blocks of hexadecimal hashes have
fragments, whatever lookups and diffs fail, and no two of them have the same anchor. In every report
on these fragments, with any title and any notices, the links are one for each fragment, in order,
each with the title of the fragment and to the one section with its id, and the sections are the
fragments as they are, in the same order. -/
theorem contents_match_sections (something : blocks ≠ [])
    (hex : ∀ block ∈ blocks, ∀ record ∈ block.records, record.Hexadecimal history.commit?)
    (hexBase : base.Hexadecimal) (hexTip : tip.Hexadecimal) :
    ∃ fragments shownBase shownTip,
      Fragment.ofBlocks? history .escaped blocks = some fragments ∧ fragments.length = blocks.length ∧
      (fragments.map Fragment.anchor).Nodup ∧
      ShownHash.ofHash? base = some shownBase ∧ ShownHash.ofHash? tip = some shownTip ∧
      ∀ title notices generated,
        (Report.mk title shownBase shownTip fragments notices generated).Navigable := by
  obtain ⟨fragments, made⟩ := Fragment.exists_fragments hex .escaped 1
  have length := (Fragment.forall₂_of_made made).length_eq.symm
  refine ⟨fragments, _, _, made, length, Fragment.anchors_nodup made,
    ShownHash.ofHash?_of_hexadecimal hexBase, ShownHash.ofHash?_of_hexadecimal hexTip,
    fun title notices generated => Report.navigable ?_ hex made ?_ ?_⟩
  · rintro rfl
    exact something (List.length_eq_zero_iff.mp length.symm)
  · exact ⟨hexBase, hexBase.take 7⟩
  · exact ⟨hexTip, hexTip.take 7⟩

theorem hostile_contents_match_sections :
    hostileBlocks ≠ [] ∧
      (∀ block ∈ hostileBlocks, ∀ record ∈ block.records, record.Hexadecimal hostile.commit?) ∧
      Text.Hexadecimal (List.replicate 2 'a') ∧ Text.Hexadecimal (List.replicate 9 'e') ∧
      ∃ fragments, Fragment.ofBlocks? hostile .escaped hostileBlocks = some fragments ∧
        fragments.length = 4 ∧ (hostileReport fragments).Navigable := by
  have something : hostileBlocks ≠ [] := List.cons_ne_nil _ _
  have hexBase : Text.Hexadecimal (List.replicate 2 'a') := hexadecimal_replicate (by decide) 2
  have hexTip : Text.Hexadecimal (List.replicate 9 'e') := hexadecimal_replicate (by decide) 9
  obtain ⟨fragments, _, _, made, length, _, isBase, isTip, navigable⟩ :=
    contents_match_sections something hostileBlocks_hexadecimal hexBase hexTip
  rw [ShownHash.ofHash?_of_hexadecimal hexBase, Option.some.injEq] at isBase
  rw [ShownHash.ofHash?_of_hexadecimal hexTip, Option.some.injEq] at isTip
  subst isBase isTip
  exact ⟨something, hostileBlocks_hexadecimal, hexBase, hexTip, fragments, made, length, navigable _ _ _⟩

end CuratedHistory
