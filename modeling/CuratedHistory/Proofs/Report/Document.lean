import CuratedHistory.Proofs.Report.Sound
import CuratedHistory.Report.Document

namespace CuratedHistory

/-! The whole report as one document. Whatever the commits, the plan and the notices say, its
HTML is well-formed, and so is the HTML of each fragment in it. -/

open Html

namespace Report

variable {report : Report} {fragments : List Fragment} {commit : ShownHash}

theorem styleRule_bare {selector declarations : String} (bare : Bare selector.toList)
    (bareToo : Bare declarations.toList) : Bare (styleRule selector declarations) := by
  have opening : Bare " \x7b ".toList := by decide
  have closing : Bare " \x7d".toList := by decide
  exact ((bare.append opening).append bareToo).append closing

theorem unlines_bare {lines : List Text} (bare : ∀ line ∈ lines, Bare line) : Bare (unlines lines) := by
  induction lines with
  | nil => decide
  | cons line rest ih =>
      rw [List.forall_mem_cons] at bare
      have feed : Bare ['\n'] := by decide
      exact (bare.1.append feed).append (ih bare.2)

theorem stylesheet_bare : Bare stylesheet := by
  refine unlines_bare ?_
  simp only [List.forall_mem_cons, List.mem_nil_iff, false_implies, implies_true, and_true]
  and_intros
  all_goals exact styleRule_bare (.literal (by decide)) (.literal (by decide))

theorem headNodes_sound (report : Report) : AllSound report.headNodes := by
  have charset : OwnTag "meta charset=\"utf-8\"".toList := .fixed (by simp)
  have title : (Html.plain "title" [.text report.title]).Sound := .plain (by simp) ⟨trivial, trivial⟩
  have style : (Html.plain "style" [Html.newline, .markup stylesheet]).Sound :=
    .plain (by simp) ⟨trivial, .of_bare stylesheet_bare, trivial⟩
  exact ⟨trivial, .lone charset (by decide), trivial, title, trivial, style, trivial, trivial⟩

/-- The end of a range, when nothing but digits is shown of it. -/
theorem rangeEnd_sound (hex : commit.hash.Hexadecimal) (hexShort : commit.short.Hexadecimal) :
    (rangeEnd commit).Sound := by
  refine ⟨⟨"code", by simp, rfl⟩, ?_, .of_bare (.hexadecimal hexShort), trivial⟩
  rw [code_title]
  exact .commit hex

theorem headerNodes_sound (base : (rangeEnd report.base).Sound) (tip : (rangeEnd report.tip).Sound) :
    AllSound report.headerNodes := by
  have title : (Html.plain "h1" [.text report.title]).Sound := .plain (by simp) ⟨trivial, trivial⟩
  have range : (Html.classed "p" "range" [
      Html.string "Commits after ", rangeEnd report.base, Html.string " up to ",
      rangeEnd report.tip, Html.string " ", .markup "&middot;".toList,
      .text (' ' :: Decimal.digits report.fragments.length ++ " blocks ".toList),
      .markup "&middot;".toList,
      .text (" generated ".toList ++ report.generated.minuteText)]).Sound :=
    .classed (by simp) (by simp) ⟨trivial, base, trivial, tip, trivial, middot_wellFormed, trivial,
      middot_wellFormed, trivial, trivial⟩
  exact ⟨trivial, title, trivial, range, trivial, trivial⟩

theorem noticeNodes_sound (notices : List Text) : AllSound (noticeNodes notices) := by
  unfold noticeNodes
  split
  · trivial
  · have each : ∀ node ∈ notices.map noticeNode, node.Sound :=
      List.forall_mem_map.mpr fun notice _ => .classed (by simp) (by simp) ⟨trivial, trivial⟩
    exact ⟨.classed (by simp) (by simp) ⟨trivial, .lines each⟩, trivial, trivial⟩

theorem contentsEntry_sound {fragment : Fragment} {number : Nat}
    (anchor : fragment.anchor = Fragment.anchorOf number) : (contentsEntry fragment).Sound := by
  have link : OwnTag ("a".toList ++ renderAttributes [("href".toList, '#' :: fragment.anchor)]) := by
    rw [anchor]
    simpa [renderAttributes, Fragment.anchorOf] using OwnTag.link number
  exact .plain (by simp) ⟨⟨⟨"a", by simp, rfl⟩, link, trivial, trivial⟩, trivial⟩

theorem contentsNodes_sound
    (anchored : ∀ fragment ∈ fragments, ∃ number, fragment.anchor = Fragment.anchorOf number) :
    AllSound (contentsNodes fragments) := by
  have heading : (Html.plain "h2" [Html.string "Contents"]).Sound :=
    .plain (by simp) ⟨trivial, trivial⟩
  have list : (Html.plain "ol" (Html.newline :: Html.lines (fragments.map contentsEntry))).Sound := by
    refine .plain (by simp) ⟨trivial, .lines (List.forall_mem_map.mpr ?_)⟩
    intro fragment member
    obtain ⟨number, anchor⟩ := anchored fragment member
    exact contentsEntry_sound anchor
  exact ⟨.classed (by simp) (by simp) ⟨trivial, heading, trivial, list, trivial, trivial⟩, trivial, trivial⟩

theorem mainNodes_sound
    (anchored : ∀ fragment ∈ fragments, ∃ number, fragment.anchor = Fragment.anchorOf number)
    (wellFormed : ∀ fragment ∈ fragments, WellFormed fragment.html) : AllSound (mainNodes fragments) := by
  unfold mainNodes
  split
  · exact ⟨.classed (by simp) (by simp) ⟨trivial, trivial⟩, trivial, trivial⟩
  · have finished : AllSound (fragments.map fun fragment => .markup fragment.html) :=
      allSound_iff.mpr (List.forall_mem_map.mpr wellFormed)
    have main : (Html.plain "main" (Html.newline ::
        fragments.map fun fragment => .markup fragment.html)).Sound := .plain (by simp) ⟨trivial, finished⟩
    have inner : AllSound (fragmentNodes fragments) := ⟨main, trivial, trivial⟩
    exact (contentsNodes_sound anchored).append inner

theorem doctype_sound : (Html.markup "<!DOCTYPE html>".toList).Sound := by
  have doctype : OwnTag "!DOCTYPE html".toList := .fixed (by simp)
  exact .lone doctype (by decide)

theorem htmlTag_own : OwnTag ("html".toList ++ renderAttributes [("lang".toList, "en".toList)]) := by
  have own : OwnTag "html lang=\"en\"".toList := .fixed (by simp)
  exact own

theorem head_sound (report : Report) : (Html.plain "head" report.headNodes).Sound :=
  .plain (by simp) (headNodes_sound report)

/-- What stands in the body before the contents. -/
theorem top_sound (base : (rangeEnd report.base).Sound) (tip : (rangeEnd report.tip).Sound) :
    AllSound ([Html.newline, Html.plain "header" report.headerNodes, Html.newline] ++
      noticeNodes report.notices) := by
  have header : (Html.plain "header" report.headerNodes).Sound :=
    .plain (by simp) (headerNodes_sound base tip)
  exact AllSound.append ⟨trivial, header, trivial, trivial⟩ (noticeNodes_sound report.notices)

theorem documentNodes_sound (base : (rangeEnd report.base).Sound) (tip : (rangeEnd report.tip).Sound)
    (main : AllSound (mainNodes report.fragments)) : AllSound report.documentNodes := by
  have body : (Html.plain "body" ([Html.newline, Html.plain "header" report.headerNodes, Html.newline] ++
      noticeNodes report.notices ++ mainNodes report.fragments)).Sound :=
    .plain (by simp) ((top_sound base tip).append main)
  exact ⟨doctype_sound, trivial, ⟨⟨"html", by simp, rfl⟩, htmlTag_own, trivial, head_sound report, trivial,
    body, trivial, trivial⟩, trivial, trivial⟩

end Report

theorem ShownHash.ofHash?_of_hexadecimal {hash : Text} (hex : hash.Hexadecimal) :
    ShownHash.ofHash? hash = some { hash, short := hash.take 7 } := by
  rw [ShownHash.ofHash?, shortHash?_of_hexadecimal hex, Option.map_some]

variable {history : History} {blocks : List Block} {base tip : Text}

/-- No text can break the HTML of a report. If the hashes of the records and of their commits
are hexadecimal, then the fragments of all blocks can be made, whatever lookups and diffs fail
and from whatever number on they are numbered, and they are well-formed. The documents that
they are put into are well-formed as well, with any title and any notices. -/
theorem report_wellFormed
    (hex : ∀ block ∈ blocks, ∀ record ∈ block.records, record.Hexadecimal history.commit?)
    (hexBase : base.Hexadecimal) (hexTip : tip.Hexadecimal) (number : Nat) :
    ∃ fragments shownBase shownTip,
      Fragment.ofBlocksFrom? history .escaped number blocks = some fragments ∧
      (∀ fragment ∈ fragments, WellFormed fragment.html) ∧
      ShownHash.ofHash? base = some shownBase ∧ ShownHash.ofHash? tip = some shownTip ∧
      ∀ title notices generated,
        WellFormed (Report.mk title shownBase shownTip fragments notices generated).html := by
  obtain ⟨fragments, made⟩ := Fragment.exists_fragments hex .escaped number
  have sound := Fragment.sound_of_made hex made
  have anchored := fun fragment member => (sound fragment member).1
  have wellFormed := fun fragment member => (sound fragment member).2
  refine ⟨fragments, _, _, made, wellFormed, ShownHash.ofHash?_of_hexadecimal hexBase,
    ShownHash.ofHash?_of_hexadecimal hexTip, fun title notices generated => ?_⟩
  refine AllSound.wellFormed _ (Report.documentNodes_sound ?_ ?_ ?_)
  · exact Report.rangeEnd_sound hexBase (hexBase.take 7)
  · exact Report.rangeEnd_sound hexTip (hexTip.take 7)
  · exact Report.mainNodes_sound anchored wellFormed

/-- The commits of `halfKnown`, with diffs that try to break out of the elements that they are put
into. One of the diffs cannot be had. -/
def hostile : History where
  commit? := halfKnown.commit?
  diff? _ child :=
    if child = List.replicate 40 'e' then none
    else some {
      text := "@@\n+</span></pre><script>&".toList, filesChanged := 1, insertions := 1, deletions := 0 }

def hostileBlocks : List Block := [
  .single { plainRecord 1 .pick 'a' with message := some "</p>".toList },
  .squashRun [plainRecord 2 .squash 'b', plainRecord 3 .squash 'c'],
  .dropped { plainRecord 4 .drop 'd' with reason := some "</section>".toList },
  .bundleRun "</div>".toList [{ plainRecord 5 .bundle 'e' with sectionLabel := some "<".toList }]]

def hostileReport (fragments : List Fragment) : Report where
  title := "</title><script>".toList
  base := { hash := List.replicate 2 'a', short := List.replicate 2 'a' }
  tip := { hash := List.replicate 9 'e', short := List.replicate 7 'e' }
  fragments := fragments
  notices := ["</body>".toList, "&".toList]
  generated := Instant.ofSeconds 0

theorem hexadecimal_replicate {c : Char} (hex : isHexDigit c = true) (count : Nat) :
    Text.Hexadecimal (List.replicate count c) := by
  intro d member
  rw [List.eq_of_mem_replicate member]
  exact hex

theorem hostile_hexadecimal {digit : Char} (isHex : isHexDigit digit = true) (record : Record)
    (spelled : record.commit = List.replicate 40 digit) : record.Hexadecimal hostile.commit? := by
  have isHash : record.commit.Hexadecimal := spelled ▸ hexadecimal_replicate isHex 40
  refine ⟨isHash, fun commit known => ?_⟩
  rwa [halfKnown_truthful record.commit commit known]

theorem hostileBlocks_hexadecimal :
    ∀ block ∈ hostileBlocks, ∀ record ∈ block.records, record.Hexadecimal hostile.commit? := by
  simp only [hostileBlocks, Block.records, List.forall_mem_cons, List.mem_nil_iff, false_implies,
    implies_true, and_true]
  and_intros
  all_goals exact hostile_hexadecimal (by decide) _ rfl

theorem hostile_report_wellFormed :
    (∀ block ∈ hostileBlocks, ∀ record ∈ block.records, record.Hexadecimal hostile.commit?) ∧
      Text.Hexadecimal (List.replicate 2 'a') ∧ Text.Hexadecimal (List.replicate 9 'e') ∧
      ∃ fragments, Fragment.ofBlocks? hostile .escaped hostileBlocks = some fragments ∧
        fragments.length = 4 ∧ (∀ fragment ∈ fragments, WellFormed fragment.html) ∧
        WellFormed (hostileReport fragments).html := by
  have hex := hostileBlocks_hexadecimal
  have hexBase : Text.Hexadecimal (List.replicate 2 'a') := hexadecimal_replicate (by decide) 2
  have hexTip : Text.Hexadecimal (List.replicate 9 'e') := hexadecimal_replicate (by decide) 9
  obtain ⟨fragments, _, _, made, wellFormed, isBase, isTip, whole⟩ := report_wellFormed hex hexBase hexTip 1
  have counted : (Fragment.ofBlocks? hostile .escaped hostileBlocks).map List.length = some 4 := by
    decide +kernel
  rw [Fragment.ofBlocks?, made, Option.map_some, Option.some.injEq] at counted
  rw [ShownHash.ofHash?_of_hexadecimal hexBase, Option.some.injEq] at isBase
  rw [ShownHash.ofHash?_of_hexadecimal hexTip, Option.some.injEq] at isTip
  subst isBase isTip
  exact ⟨hex, hexBase, hexTip, fragments, made, counted, wellFormed, whole _ _ _⟩

end CuratedHistory
