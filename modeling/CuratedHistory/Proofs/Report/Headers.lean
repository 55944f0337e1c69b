import CuratedHistory.Proofs.Plan.Grouping
import CuratedHistory.Proofs.Plan.Run
import CuratedHistory.Proofs.Report.Marks
import CuratedHistory.Proofs.Text.Decimal

namespace CuratedHistory

/-! The fragments of an accepted plan. Read back from their HTML, the headers of commits
name the commits of the plan, each of them once and in order. -/

variable {mark first : Text}

theorem digits_noAngle (n : Nat) : NoAngle (Decimal.digits n) :=
  ⟨fun member => absurd (Decimal.isDigit_of_mem member) (by decide),
    fun member => absurd (Decimal.isDigit_of_mem member) (by decide)⟩

theorem attribute_noAngle {name value : Text} (angles : NoAngle name) (anglesToo : NoAngle value) :
    NoAngle (Html.renderAttributes [(name, value)]) := by
  have quote : NoAngle ['"'] := by decide
  have equals : NoAngle ['=', '"'] := by decide
  have blank : NoAngle [' '] := by decide
  have whole := (((blank.append angles).append equals).append anglesToo).append quote
  simpa [Html.renderAttributes] using whole

namespace Block

open Fragment

variable {history : History} {record : Record} {records : List Record} {shown before after : List Text}
  {sectionLabel : Text} {parts : List Part} {shownBy : Record → List Text}

theorem yields_missingNote (isMark : ReportMark mark first) (record : Record) (commit : Option Commit) :
    Yields mark (partBody history .escaped) (missingNote record commit) [] := by
  cases commit with
  | none => exact yields_failure isMark _
  | some commit => exact .nil mark _

theorem yields_labelLine (isMark : ReportMark mark first) (label : Option Text) :
    Yields mark (partBody history .escaped) (labelLine label) [] := by
  cases label with
  | none => exact .nil mark _
  | some label =>
      exact yields_nothing isMark
        ⟨isMark.element (by decide) (by decide) ⟨trivial, trivial, trivial⟩, trivial⟩

theorem yields_ownDiff (isMark : ReportMark mark first) (hex : record.Hexadecimal history.commit?) :
    Yields mark (partBody history .escaped) (ownDiff (history.commit? record.commit)) [] := by
  cases known : history.commit? record.commit with
  | none => exact .nil mark _
  | some commit => exact yields_diff isMark (hex.known commit known)

theorem yields_shownParts (isMark : ReportMark mark first) {commit : Option Commit}
    (header : Shows mark (Html.renderAll (shownHeader record commit)) shown) :
    Yields mark (partBody history .escaped) (shownParts record commit) shown :=
  (yields_missingNote isMark record commit).append (yields_html isMark header)

theorem yields_commitParts (isMark : ReportMark mark first) (hex : record.Hexadecimal history.commit?)
    (header : Shows mark (Html.renderAll (shownHeader record (history.commit? record.commit))) shown)
    (label : Option Text) :
    Yields mark (partBody history .escaped)
      (shownParts record (history.commit? record.commit) ++ labelLine label ++
        ownDiff (history.commit? record.commit)) shown := by
  have whole := ((yields_shownParts isMark header).append (yields_labelLine isMark label)).append
    (yields_ownDiff isMark hex)
  rwa [List.append_nil, List.append_nil] at whole

theorem yields_ofParts (title : Text) (yields : Yields mark (partBody history .escaped) parts shown) :
    Yields mark (entryBody history .escaped) (Outline.ofParts title parts).entries shown := by
  obtain ⟨bodies, made, shows⟩ := yields
  refine ⟨bodies, ?_, shows⟩
  rw [Outline.ofParts, List.mapM_map]
  exact made

theorem yields_member (isMark : ReportMark mark first)
    (yields : Yields mark (partBody history .escaped) parts shown) :
    Yields mark (entryBody history .escaped) [.member parts] shown := by
  obtain ⟨bodies, made, shows⟩ := yields
  have article : Shows mark (Html.classed "article" "bundle-member"
      (Html.newline :: (Body.concat bodies).nodes)).render shown :=
    isMark.shows_element (by decide) (by decide) (isMark.shows_newline.cons shows)
  have member : entryBody history .escaped (.member parts) = some
      ⟨[Html.classed "article" "bundle-member" (Html.newline :: (Body.concat bodies).nodes), Html.newline],
        (Body.concat bodies).fallbacks⟩ := by
    simp only [entryBody, partsBody, made, Option.bind_eq_bind, Option.bind_some, pure]
  exact .single member (isMark.shows_line article)

theorem runHeader_without (isMark : ReportMark mark first) (count : Text) {firstRecord last : Record}
    (hex : firstRecord.commit.Hexadecimal) (hexLast : last.commit.Hexadecimal) :
    (runHeader count (spanOf firstRecord last) firstRecord last).Without first := by
  have dots : NoAngle "..".toList := by decide
  have span : NoAngle (spanOf firstRecord last) :=
    ((hexadecimal_noAngle (hex.take 7)).append dots).append (hexadecimal_noAngle (hexLast.take 7))
  have hashes : NoAngle (firstRecord.commit ++ "..".toList ++ last.commit) :=
    ((hexadecimal_noAngle hex).append dots).append (hexadecimal_noAngle hexLast)
  refine isMark.element (by decide) (by decide) ⟨trivial, trivial, trivial, ?_, trivial⟩
  exact isMark.element (by decide) (attribute_noAngle (by decide) hashes) ⟨span.1, trivial⟩

theorem shows_squashedList (isMark : ReportMark mark first)
    (headers : ∀ record ∈ records,
      Shows mark (Html.renderAll (shownHeader record (history.commit? record.commit))) (shownBy record)) :
    Shows mark (squashedList (records.map fun record =>
      Html.plain "li" (shownHeader record (history.commit? record.commit)))).render
      (records.flatMap shownBy) := by
  have items : Shows mark (Html.renderAll (Html.lines (records.map fun record =>
      Html.plain "li" (shownHeader record (history.commit? record.commit))))) (records.flatMap shownBy) := by
    rw [Html.lines, List.flatMap_map]
    refine shows_flatMap fun record member => isMark.shows_line ?_
    exact isMark.shows_element (by decide) (by decide) (headers record member)
  exact isMark.shows_element (by decide) (by decide) (isMark.shows_newline.cons items)

/-- Between what its two ends show, a section shows the headers of its commits. -/
theorem bundle_yields (isMark : ReportMark mark first)
    (hex : ∀ record ∈ records, record.Hexadecimal history.commit?)
    (opening : Shows mark (sectionOpening sectionLabel).render before)
    (closing : Shows mark (sectionClosing sectionLabel).render after)
    (headers : ∀ record ∈ records,
      Shows mark (Html.renderAll (shownHeader record (history.commit? record.commit))) (shownBy record)) :
    ∃ outline, (Block.bundleRun sectionLabel records).outline? history.commit? = some outline ∧
      Yields mark (entryBody history .escaped) outline.entries (before ++ records.flatMap shownBy ++ after) := by
  have line {node : Html} {texts : List Text} (shows : Shows mark node.render texts) :
      Yields mark (entryBody history .escaped) [.line (.html [node])] texts :=
    .single rfl (shows_html isMark shows.singleton)
  have members : Yields mark (entryBody history .escaped) (records.map fun record =>
      .member (shownParts record (history.commit? record.commit) ++
        labelLine (ownLabel sectionLabel record) ++ ownDiff (history.commit? record.commit)))
      (records.flatMap shownBy) := by
    rw [List.map_eq_flatMap]
    refine .flatMap fun record member => yields_member isMark ?_
    exact yields_commitParts isMark (hex record member) (headers record member) _
  exact ⟨_, bundleOutline_eq hex, ((line opening).append members).append (line closing)⟩

/-- Between its first line and its last one, a squash run shows the headers of its commits. -/
theorem squash_yields (isMark : ReportMark mark first)
    (hex : ∀ record ∈ records, record.Hexadecimal history.commit?)
    (headers : ∀ record ∈ records,
      Shows mark (Html.renderAll (shownHeader record (history.commit? record.commit))) (shownBy record)) :
    ∃ outline, (Block.squashRun records).outline? history.commit? = some outline ∧
      Yields mark (entryBody history .escaped) outline.entries (records.flatMap shownBy) := by
  cases records with
  | nil => exact ⟨_, rfl, .nil mark _⟩
  | cons opener rest =>
      obtain ⟨last, isLast⟩ := Option.isSome_iff_exists.mp
        (List.getLast?_isSome.mpr (List.cons_ne_nil opener rest))
      have start := (hex opener List.mem_cons_self).named
      have stop := (hex last (List.mem_of_getLast? isLast)).named
      have top : Yields mark (partBody history .escaped)
          [.html [runHeader (Decimal.digits (rest.length + 1)) (spanOf opener last) opener last]] [] :=
        yields_nothing isMark ⟨runHeader_without isMark _ start stop, trivial⟩
      have notes : Yields mark (partBody history .escaped)
          ((opener :: rest).flatMap fun record => missingNote record (history.commit? record.commit))
          ((opener :: rest).flatMap fun _ => []) :=
        .flatMap fun record _ => yields_missingNote isMark record _
      have diff : Yields mark (partBody history .escaped)
          [squashedDiff (history.commit? opener.commit) last] [] := by
        cases history.commit? opener.commit with
        | none => exact yields_failure isMark _
        | some commit => exact yields_diff isMark stop
      have list : Yields mark (partBody history .escaped)
          [.html [squashedList ((opener :: rest).map fun record =>
            Html.plain "li" (shownHeader record (history.commit? record.commit)))]]
          ((opener :: rest).flatMap shownBy) :=
        yields_html isMark (shows_squashedList isMark headers).singleton
      have scope : Yields mark (partBody history .escaped) [.html [scopeNode]] [] :=
        yields_nothing isMark ⟨isMark.element (by decide) (by decide) ⟨trivial, trivial⟩, trivial⟩
      have whole := (top.append notes).append (diff.append (list.append scope))
      rw [List.flatMap_eq_nil_iff.mpr fun _ _ => rfl, List.append_nil, List.nil_append, List.nil_append,
        List.append_nil] at whole
      exact ⟨_, squashOutline_eq hex isLast, yields_ofParts _ whole⟩

theorem sectionOpening_without (isMark : ReportMark mark first) (sectionLabel : Text)
    (other : "div class=\"bundle-begin\"".toList ≠ first) : (sectionOpening sectionLabel).Without first := by
  have name : OtherTag first "div class=\"bundle-begin\"".toList := ⟨by decide, other⟩
  have label : (Html.plain "h2" [Html.string "Section: ", .text sectionLabel]).Without first :=
    isMark.element (by decide) (by decide) ⟨trivial, trivial, trivial⟩
  have notice : (Html.classed "p" "notice" [Html.string bundleNotice]).Without first :=
    isMark.element (by decide) (by decide) ⟨trivial, trivial⟩
  exact ⟨name, isMark.divEnd, label, trivial, notice, trivial⟩

theorem sectionClosing_without (isMark : ReportMark mark first) (sectionLabel : Text)
    (other : "div class=\"bundle-end\"".toList ≠ first) : (sectionClosing sectionLabel).Without first := by
  have name : OtherTag first "div class=\"bundle-end\"".toList := ⟨by decide, other⟩
  exact ⟨name, isMark.divEnd, trivial, trivial, trivial⟩

/-- Each block shows the abbreviated hashes of its commits in order. -/
theorem yields_headers (block : Block) (hex : ∀ record ∈ block.records, record.Hexadecimal history.commit?) :
    ∃ outline, block.outline? history.commit? = some outline ∧
      Yields headerMark (entryBody history .escaped) outline.entries
        (block.records.flatMap fun record => [shownHash record (history.commit? record.commit)]) := by
  have isMark := ReportMark.header
  have header : ∀ record ∈ block.records, Shows headerMark
      (Html.renderAll (shownHeader record (history.commit? record.commit)))
      [shownHash record (history.commit? record.commit)] :=
    fun record member => shows_shownHeader (hex record member)
  cases block with
  | single record =>
      have member := List.mem_singleton_self record
      refine ⟨_, singleOutline_eq (hex record member), yields_ofParts _ ?_⟩
      have whole := yields_commitParts isMark (hex record member) (header record member) none
      rwa [labelLine, List.append_nil] at whole
  | dropped record =>
      have member := List.mem_singleton_self record
      refine ⟨_, droppedOutline_eq (hex record member), yields_ofParts _ ?_⟩
      have reason : (reasonNode record).Without "h3".toList :=
        isMark.element (by decide) (by decide) ⟨trivial, trivial, trivial⟩
      exact (yields_shownParts isMark (header record member)).append (yields_nothing isMark ⟨reason, trivial⟩)
  | squashRun records => exact squash_yields isMark hex header
  | bundleRun sectionLabel records =>
      have opening : Shows headerMark (sectionOpening sectionLabel).render [] :=
        .of_without isMark.opensWith _ (sectionOpening_without isMark sectionLabel (by decide))
      have closing : Shows headerMark (sectionClosing sectionLabel).render [] :=
        .of_without isMark.opensWith _ (sectionClosing_without isMark sectionLabel (by decide))
      obtain ⟨outline, outlined, yields⟩ := bundle_yields isMark hex opening closing header
      rw [List.nil_append, List.append_nil] at yields
      exact ⟨outline, outlined, yields⟩

/-- A section of bundled commits shows its label at its start. -/
theorem yields_opening (hex : ∀ record ∈ records, record.Hexadecimal history.commit?) :
    ∃ outline, (Block.bundleRun sectionLabel records).outline? history.commit? = some outline ∧
      Yields openingMark (entryBody history .escaped) outline.entries
        [escapeHtml ("Section: ".toList ++ sectionLabel)] := by
  have isMark := ReportMark.section .opening
  have closing : Shows openingMark (sectionClosing sectionLabel).render [] :=
    .of_without isMark.opensWith _ (sectionClosing_without isMark sectionLabel (by decide))
  have headers : ∀ record ∈ records, Shows openingMark
      (Html.renderAll (shownHeader record (history.commit? record.commit))) [] :=
    fun record member => .of_allWithout isMark.opensWith _ (shownHeader_without .opening (hex record member))
  obtain ⟨outline, outlined, yields⟩ :=
    bundle_yields isMark hex (shows_sectionOpening sectionLabel) closing headers
  rw [List.flatMap_eq_nil_iff.mpr fun _ _ => rfl, List.append_nil, List.append_nil] at yields
  exact ⟨outline, outlined, yields⟩

theorem yields_closing (hex : ∀ record ∈ records, record.Hexadecimal history.commit?) :
    ∃ outline, (Block.bundleRun sectionLabel records).outline? history.commit? = some outline ∧
      Yields closingMark (entryBody history .escaped) outline.entries
        [escapeHtml ("End of section: ".toList ++ sectionLabel)] := by
  have isMark := ReportMark.section .closing
  have opening : Shows closingMark (sectionOpening sectionLabel).render [] :=
    .of_without isMark.opensWith _ (sectionOpening_without isMark sectionLabel (by decide))
  have headers : ∀ record ∈ records, Shows closingMark
      (Html.renderAll (shownHeader record (history.commit? record.commit))) [] :=
    fun record member => .of_allWithout isMark.opensWith _ (shownHeader_without .closing (hex record member))
  obtain ⟨outline, outlined, yields⟩ :=
    bundle_yields isMark hex opening (shows_sectionClosing sectionLabel) headers
  rw [List.flatMap_eq_nil_iff.mpr fun _ _ => rfl, List.append_nil, List.nil_append] at yields
  exact ⟨outline, outlined, yields⟩

end Block

end CuratedHistory
