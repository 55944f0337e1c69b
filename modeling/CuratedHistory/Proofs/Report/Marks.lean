import CuratedHistory.Proofs.Report.Outline
import CuratedHistory.Proofs.Report.Reader
import CuratedHistory.Report.Fragment

namespace CuratedHistory

/-! What a reader of a report looks for: the headers of commits, and the two ends of a
section. Only the nodes that are meant for it begin with such a mark. -/

/-- How the header of a commit begins. Its abbreviated hash comes next. -/
def headerMark : Text := "<h3><code class=\"sha\">".toList

/-- How a section of bundled commits begins. -/
def openingMark : Text := "<div class=\"bundle-begin\"><h2>".toList

/-- How a section of bundled commits ends. -/
def closingMark : Text := "<div class=\"bundle-end\">".toList

/-- A mark of a section, with its first tag. -/
inductive SectionMark : Text → Text → Prop where
  | opening : SectionMark openingMark "div class=\"bundle-begin\"".toList
  | closing : SectionMark closingMark "div class=\"bundle-end\"".toList

/-- A mark of a header or of a section, with its first tag. -/
inductive ReportMark : Text → Text → Prop where
  | header : ReportMark headerMark "h3".toList
  | section {mark first : Text} (isMark : SectionMark mark first) : ReportMark mark first

variable {mark first : Text}

theorem ReportMark.opensWith (isMark : ReportMark mark first) : OpensWith mark first := by
  rcases isMark with _ | ⟨_ | _⟩
  · exact ⟨by decide, "<code class=\"sha\">".toList, rfl⟩
  · exact ⟨by decide, "<h2>".toList, rfl⟩
  · exact ⟨by decide, [], rfl⟩

/-- The names of elements that no mark begins with. -/
def otherNames : List Text :=
  ["p", "pre", "span", "h2", "code", "ol", "li", "article", "section"].map String.toList

namespace ReportMark

variable {tag : Text} {attributes : List (Text × Text)} {children : List Html}

theorem otherTag (isMark : ReportMark mark first) (name : tag ∈ otherNames) {inside : Text}
    (angles : NoAngle inside) : OtherTag first (tag ++ inside) ∧ OtherTag first ('/' :: tag) := by
  have plain : ∀ tag ∈ otherNames, NoAngle tag ∧ NoAngle ('/' :: tag) := by decide
  have apart : ∀ tag ∈ otherNames, ¬ tag <+: first ∧ '/' :: tag ≠ first := by
    rcases isMark with _ | ⟨_ | _⟩ <;> decide +kernel
  refine ⟨⟨(plain tag name).1.append angles, ?_⟩, (plain tag name).2, (apart tag name).2⟩
  exact fun same => (apart tag name).1 (same ▸ List.prefix_append tag inside)

theorem element (isMark : ReportMark mark first) (name : tag ∈ otherNames)
    (angles : NoAngle (Html.renderAttributes attributes)) (inner : Html.AllWithout first children) :
    (Html.element tag attributes children).Without first :=
  ⟨(isMark.otherTag name angles).1, (isMark.otherTag name angles).2, inner⟩

theorem shows_element (isMark : ReportMark mark first) (name : tag ∈ otherNames)
    (angles : NoAngle (Html.renderAttributes attributes)) {shown : List Text}
    (inner : Shows mark (Html.renderAll children) shown) :
    Shows mark (Html.element tag attributes children).render shown :=
  .element isMark.opensWith (isMark.otherTag name angles).1 (isMark.otherTag name angles).2 inner

theorem divEnd (isMark : ReportMark mark first) : OtherTag first "/div".toList := by
  rcases isMark with _ | ⟨_ | _⟩ <;> exact ⟨by decide, by decide⟩

theorem shows_newline (isMark : ReportMark mark first) : Shows mark Html.newline.render [] :=
  .of_without isMark.opensWith _ trivial

theorem shows_line (isMark : ReportMark mark first) {node : Html} {shown : List Text}
    (shows : Shows mark node.render shown) : Shows mark (Html.renderAll [node, Html.newline]) shown := by
  have whole := shows.cons isMark.shows_newline.singleton
  rwa [List.append_nil] at whole

end ReportMark

/-! Bodies, and what they show after a mark -/

/-- The bodies of some parts, or of some entries, exist, and show this after the mark. -/
def Yields {α : Type} (mark : Text) (read : α → Option Body) (items : List α) (shown : List Text) : Prop :=
  ∃ bodies, items.mapM read = some bodies ∧ Shows mark (Html.renderAll (Body.concat bodies).nodes) shown

namespace Yields

variable {α β : Type} {read : α → Option Body} {item : α} {items later : List α} {body : Body}
  {shown others : List Text}

theorem nil (mark : Text) (read : α → Option Body) : Yields mark read [] [] :=
  ⟨[], rfl, .nil mark⟩

theorem single (made : read item = some body) (shows : Shows mark (Html.renderAll body.nodes) shown) :
    Yields mark read [item] shown := by
  refine ⟨[body], by rw [List.mapM_cons, made]; rfl, ?_⟩
  rwa [Body.concat, List.flatMap_singleton]

theorem append (one : Yields mark read items shown) (another : Yields mark read later others) :
    Yields mark read (items ++ later) (shown ++ others) := by
  obtain ⟨bodies, made, shows⟩ := one
  obtain ⟨further, madeToo, showsToo⟩ := another
  refine ⟨bodies ++ further, by rw [List.mapM_append, made, madeToo]; rfl, ?_⟩
  rw [Body.concat, List.flatMap_append, Html.renderAll_append]
  exact shows.append showsToo

theorem flatMap {list : List β} {parts : β → List α} {texts : β → List Text}
    (each : ∀ entry ∈ list, Yields mark read (parts entry) (texts entry)) :
    Yields mark read (list.flatMap parts) (list.flatMap texts) := by
  induction list with
  | nil => exact .nil mark read
  | cons entry rest ih =>
      rw [List.forall_mem_cons] at each
      rw [List.flatMap_cons, List.flatMap_cons]
      exact each.1.append (ih each.2)

end Yields

theorem shows_flatMap {β : Type} {list : List β} {nodes : β → List Html} {texts : β → List Text}
    (each : ∀ entry ∈ list, Shows mark (Html.renderAll (nodes entry)) (texts entry)) :
    Shows mark (Html.renderAll (list.flatMap nodes)) (list.flatMap texts) := by
  induction list with
  | nil => exact .nil mark
  | cons entry rest ih =>
      rw [List.forall_mem_cons] at each
      rw [List.flatMap_cons, List.flatMap_cons, Html.renderAll_append]
      exact each.1.append (ih each.2)

theorem Markup.convertPatch_escaped (patch : Patch) :
    escaped.convertPatch patch = .ok (escapedHtml patch.text) :=
  rfl

namespace Fragment

variable {history : History} {base : DiffBase} {child : Text} {nodes : List Html}
  {shown : List Text}

theorem lineClass_noAngle (kind : DiffLineKind) :
    NoAngle (Html.renderAttributes [("class".toList, kind.className.toList)]) := by
  cases kind <;> decide

/-- A patch that changes nothing becomes a note, any other its counts and its lines. -/
theorem diffNodes_escaped (made : diffNodes? history .escaped base child = some nodes) :
    nodes = [Html.classed "p" "notice" [Html.string "No file changes."]] ∨
      ∃ patch : Patch, nodes = [Html.classed "p" "stat" [.text patch.shortStat], Html.newline,
        Markup.escapedHtml patch.text] := by
  unfold diffNodes? at made
  split at made
  · contradiction
  · rename_i patch _
    split at made
    · exact .inl (Option.some.inj made).symm
    · rw [Markup.convertPatch_escaped] at made
      exact .inr ⟨patch, (Option.some.inj made).symm⟩

theorem diffNodes_without (isMark : ReportMark mark first)
    (made : diffNodes? history .escaped base child = some nodes) : Html.AllWithout first nodes := by
  obtain rfl | ⟨patch, rfl⟩ := diffNodes_escaped made
  · exact ⟨isMark.element (by decide) (by decide) ⟨trivial, trivial⟩, trivial⟩
  · have lines : Html.AllWithout first ((classifyLines patch.text).flatMap Markup.ofLine) := by
      rw [Html.allWithout_iff]
      intro node inside
      obtain ⟨⟨kind, line⟩, _, among⟩ := List.mem_flatMap.mp inside
      rcases List.mem_pair.mp among with rfl | rfl
      · exact isMark.element (by decide) (lineClass_noAngle kind) ⟨trivial, trivial⟩
      · trivial
    exact ⟨isMark.element (by decide) (by decide) ⟨trivial, trivial⟩, trivial,
      isMark.element (by decide) (by decide) lines, trivial⟩

theorem shows_html (isMark : ReportMark mark first) (shows : Shows mark (Html.renderAll nodes) shown) :
    Shows mark (Html.renderAll (Body.html nodes).nodes) shown := by
  have broken := shows.append (.of_allWithout isMark.opensWith [Html.newline] ⟨trivial, trivial⟩)
  rw [List.append_nil] at broken
  rwa [Body.html, Html.renderAll_append]

theorem yields_html (isMark : ReportMark mark first) (shows : Shows mark (Html.renderAll nodes) shown) :
    Yields mark (partBody history .escaped) [.html nodes] shown :=
  .single rfl (shows_html isMark shows)

theorem yields_nothing (isMark : ReportMark mark first) (without : Html.AllWithout first nodes) :
    Yields mark (partBody history .escaped) [.html nodes] [] :=
  yields_html isMark (.of_allWithout isMark.opensWith nodes without)

theorem failure_without (isMark : ReportMark mark first) (note : Text) :
    Html.AllWithout first (Body.failure note).nodes :=
  ⟨isMark.element (by decide) (by decide) ⟨trivial, trivial⟩, trivial, trivial⟩

theorem yields_failure (isMark : ReportMark mark first) (note : Text) :
    Yields mark (partBody history .escaped) [.failure note] [] :=
  .single rfl (.of_allWithout isMark.opensWith _ (failure_without isMark note))

/-- A diff, or the note in its place, shows nothing after a mark. -/
theorem yields_diff (isMark : ReportMark mark first) (hex : child.Hexadecimal) :
    Yields mark (partBody history .escaped) [.diff base child] [] := by
  cases made : diffNodes? history .escaped base child with
  | none =>
      have noted : partBody history .escaped (.diff base child) = some (.failure
          ("The diff for ".toList ++ child.take 7 ++ " could not be rendered.".toList)) := by
        simp only [partBody, diffBody, made, shortHash?_of_hexadecimal hex, Option.bind_eq_bind,
          Option.bind_some, pure]
      exact .single noted (.of_allWithout isMark.opensWith _ (failure_without isMark _))
  | some nodes =>
      have shown : partBody history .escaped (.diff base child) = some (.html nodes) := by
        simp only [partBody, diffBody, made]
      refine .single shown ?_
      exact shows_html isMark (.of_allWithout isMark.opensWith nodes (diffNodes_without isMark made))

end Fragment

namespace Block

variable {record : Record} {nodes : List Html}

theorem hexadecimal_noAngle {hash : Text} (hex : hash.Hexadecimal) : NoAngle hash :=
  ⟨hex.notMem (by decide), hex.notMem (by decide)⟩

theorem shownHash_hexadecimal {commits : CommitLookup} (hex : record.Hexadecimal commits) :
    (shownHash record (commits record.commit)).Hexadecimal := by
  cases known : commits record.commit with
  | none => exact hex.named.take 7
  | some commit => exact (hex.known commit known).take 7

theorem planNote_without (isMark : ReportMark mark first) (record : Record) :
    Html.AllWithout first (planNote record) := by
  unfold planNote
  split
  · exact ⟨trivial, isMark.element (by decide) (by decide) ⟨trivial, trivial, trivial⟩, trivial⟩
  · trivial

theorem shaCode_without (isMark : ReportMark mark first) {hash : Text} (hex : hash.Hexadecimal) :
    (shaCode [] hash).Without first :=
  isMark.element (by decide) (by decide) ⟨(hexadecimal_noAngle hex).1, trivial⟩

theorem shaTitle_without (isMark : SectionMark mark first) {hash : Text} (hex : hash.Hexadecimal)
    (rest : Html.AllWithout first nodes) :
    (Html.plain "h3" (shaCode [("class".toList, "sha".toList)] hash :: nodes)).Without first := by
  have code : (shaCode [("class".toList, "sha".toList)] hash).Without first :=
    (ReportMark.section isMark).element (by decide) (by decide) ⟨(hexadecimal_noAngle hex).1, trivial⟩
  have tags : OtherTag first ("h3".toList ++ Html.renderAttributes []) ∧ OtherTag first "/h3".toList := by
    cases isMark <;> exact ⟨⟨by decide, by decide⟩, ⟨by decide, by decide⟩⟩
  exact ⟨tags.1, tags.2, code, rest⟩

theorem shows_shaTitle {hash : Text} (hex : hash.Hexadecimal)
    (rest : Html.AllWithout "h3".toList nodes) :
    Shows headerMark (Html.plain "h3" (shaCode [("class".toList, "sha".toList)] hash :: nodes)).render
      [hash] := by
  have digits : Html.renderAll [.markup hash] = hash := by
    rw [Html.renderAll, Html.render, Html.renderAll, List.append_nil]
  have noTag : '<' ∉ Html.renderAll [.markup hash] := by
    rw [digits]
    exact (hexadecimal_noAngle hex).1
  have shows : Shows headerMark
      (Html.plain "h3" (shaCode [("class".toList, "sha".toList)] hash :: nodes)).render
      [Html.renderAll [.markup hash]] :=
    .nested ReportMark.header.opensWith (by decide +kernel) (by decide) ⟨by decide, by decide⟩
      ⟨by decide, by decide⟩ ⟨by decide, by decide⟩ noTag rest
  rwa [digits] at shows

theorem shows_sectionOpening (sectionLabel : Text) :
    Shows openingMark (sectionOpening sectionLabel).render
      [escapeHtml ("Section: ".toList ++ sectionLabel)] := by
  have isMark := ReportMark.section .opening
  rw [← Html.renderAll_string_text]
  exact .nested isMark.opensWith (by decide +kernel) (by decide) ⟨by decide, by decide⟩
    ⟨by decide, by decide⟩ ⟨by decide, by decide⟩ (Html.lt_notMem_string_text _ _)
    ⟨trivial, isMark.element (by decide) (by decide) ⟨trivial, trivial⟩, trivial⟩

theorem shows_sectionClosing (sectionLabel : Text) :
    Shows closingMark (sectionClosing sectionLabel).render
      [escapeHtml ("End of section: ".toList ++ sectionLabel)] := by
  have isMark := ReportMark.section .closing
  rw [← Html.renderAll_string_text]
  exact .direct isMark.opensWith (by decide +kernel) (by decide) ⟨by decide, by decide⟩
    (Html.lt_notMem_string_text _ _)

theorem commitHeader_eq (isMark : ReportMark mark first) {commit : Commit}
    (hex : commit.hash.Hexadecimal) (short : Text) :
    ∃ title rest, commitHeader short commit = Html.classed "div" "commit-header"
        (Html.newline :: Html.plain "h3" (shaCode [("class".toList, "sha".toList)] short :: title) :: rest) ∧
      Html.AllWithout first title ∧ Html.AllWithout first rest := by
  refine ⟨_, _, rfl, ⟨trivial, trivial⟩, trivial, ?_, trivial, ?_⟩
  · have dot : '<' ∉ "&middot;".toList := by decide
    refine isMark.element (by decide) (by decide) ?_
    exact ⟨trivial, dot, trivial, dot, trivial, shaCode_without isMark hex, trivial⟩
  · split
    · trivial
    · exact ⟨isMark.element (by decide) (by decide) ⟨trivial, trivial⟩, trivial, trivial⟩

theorem recordHeader_eq (isMark : ReportMark mark first) (short : Text) (record : Record) :
    ∃ title rest, recordHeader short record = Html.classed "div" "commit-header"
        (Html.newline :: Html.plain "h3" (shaCode [("class".toList, "sha".toList)] short :: title) :: rest) ∧
      Html.AllWithout first title ∧ Html.AllWithout first rest := by
  refine ⟨_, _, rfl, trivial, trivial, isMark.element (by decide) (by decide) ⟨?_, trivial⟩, trivial, trivial⟩
  exact isMark.element (by decide) (by decide) ⟨trivial, trivial⟩

variable {commits : CommitLookup}

/-- With or without details, a header is a title with a hash in it, and nodes that hold
no mark. -/
theorem shownHeader_eq (isMark : ReportMark mark first) (hex : record.Hexadecimal commits) :
    ∃ title rest, shownHeader record (commits record.commit) =
        Html.classed "div" "commit-header" (Html.newline ::
          Html.plain "h3" (shaCode [("class".toList, "sha".toList)]
            (shownHash record (commits record.commit)) :: title) :: rest) :: planNote record ∧
      Html.AllWithout first title ∧ Html.AllWithout first rest := by
  cases known : commits record.commit with
  | none =>
      obtain ⟨title, rest, same, noTitle, noRest⟩ :=
        recordHeader_eq isMark (shownHash record none) record
      exact ⟨title, rest, by rw [shownHeader, same], noTitle, noRest⟩
  | some commit =>
      obtain ⟨title, rest, same, noTitle, noRest⟩ :=
        commitHeader_eq isMark (hex.known commit known) (shownHash record (some commit))
      exact ⟨title, rest, by rw [shownHeader, same], noTitle, noRest⟩

theorem shows_shownHeader (hex : record.Hexadecimal commits) :
    Shows headerMark (Html.renderAll (shownHeader record (commits record.commit)))
      [shownHash record (commits record.commit)] := by
  obtain ⟨title, rest, same, noTitle, noRest⟩ := shownHeader_eq .header hex
  have opens := ReportMark.header.opensWith
  have shown := shows_shaTitle (shownHash_hexadecimal hex) noTitle
  have inner := ReportMark.header.shows_newline.cons (shown.cons (.of_allWithout opens rest noRest))
  rw [List.nil_append, List.append_nil] at inner
  rw [same]
  have header : Shows headerMark (Html.classed "div" "commit-header" _).render _ :=
    .element opens ⟨by decide, by decide⟩ ⟨by decide, by decide⟩ inner
  exact header.cons (.of_allWithout opens _ (planNote_without .header record))

theorem shownHeader_without (isMark : SectionMark mark first) (hex : record.Hexadecimal commits) :
    Html.AllWithout first (shownHeader record (commits record.commit)) := by
  obtain ⟨title, rest, same, noTitle, noRest⟩ := shownHeader_eq (.section isMark) hex
  have name : OtherTag first "div class=\"commit-header\"".toList := by
    cases isMark <;> exact ⟨by decide, by decide⟩
  have title := shaTitle_without isMark (shownHash_hexadecimal hex) noTitle
  have note := planNote_without (.section isMark) record
  rw [same]
  exact ⟨⟨name, (ReportMark.section isMark).divEnd, trivial, title, noRest⟩, note⟩

end Block

end CuratedHistory
