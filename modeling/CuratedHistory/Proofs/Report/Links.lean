import CuratedHistory.Proofs.Report.Escaping
import CuratedHistory.Proofs.Report.Landmarks

namespace CuratedHistory

/-! Links, read off the text of a report: where each of them leads, and what it says. -/

/-- How a link into the report begins. What it leads to comes next. -/
def linkMark : Text :=
  "<a href=\"#".toList

/-- Where a link leads, and what it says, as they are written behind its beginning. -/
def readLink (behind : Text) : Text × Text :=
  let (target, rest) := Text.splitAtFirst (· = '"') behind
  (target, unescapeHtml (rest.drop 2))

/-- The links in a text, in order. -/
def linksIn (html : Text) : List (Text × Text) :=
  (textsAfter linkMark html).map readLink

/-- How a link is written behind its beginning, as far as the end of its text. -/
def linkTo (anchor title : Text) : Text :=
  anchor ++ '"' :: '>' :: escapeHtml title

theorem readLink_linkTo {anchor : Text} (noQuote : '"' ∉ anchor) (title : Text) :
    readLink (linkTo anchor title) = (anchor, title) := by
  have inside : ∀ c ∈ anchor, decide (c = '"') = false := by
    intro c member
    rw [decide_eq_false_iff_not]
    rintro rfl
    exact noQuote member
  rw [readLink, linkTo, Text.splitAtFirst_append inside (by simp)]
  exact congrArg _ (unescapeHtml_escapeHtml title)

variable {text first : Text}

/-- A beginning without the end of a tag is the beginning of what stands before that end. -/
theorem start_of_start_append {inside rest : Text} (noEnd : '>' ∉ first)
    (start : first <+: inside ++ '>' :: rest) : first <+: inside := by
  obtain ⟨following, same⟩ := start
  rcases List.append_eq_append_iff.mp same with ⟨more, isWhole, _⟩ | ⟨more, isFirst, tail⟩
  · exact ⟨more, isWhole.symm⟩
  · cases more with
    | nil => rw [isFirst, List.append_nil]
    | cons c more =>
        rw [List.cons_append, List.cons.injEq] at tail
        rw [isFirst, ← tail.1] at noEnd
        exact absurd (List.mem_append_right inside List.mem_cons_self) noEnd

/-- A mark that ends inside a tag shows nothing in a text none of whose tags begins like it. -/
theorem Shows.of_tags (noEnd : '>' ∉ first) (tags : EachBegins '<' IsTag text)
    (others : ∀ tag ∈ tagsIn text, ¬ first <+: tag) : Shows ('<' :: first) text [] := by
  intro rest
  induction text with
  | nil => rfl
  | cons c text ih =>
      by_cases isAngle : c = '<'
      · subst isAngle
        rw [tagsIn, if_pos rfl, List.forall_mem_cons] at others
        have noMark : Text.after? ('<' :: first) ('<' :: (text ++ rest)) = none := by
          rw [Option.eq_none_iff_forall_not_mem]
          intro following found
          obtain ⟨_, ⟨inside, own, rfl⟩, later, whole⟩ := tags [] text rfl
          rw [tagOf, List.cons_append, List.cons.injEq, List.append_assoc] at whole
          have start : first <+: inside ++ '>' :: (later ++ rest) := by
            refine ⟨following, ?_⟩
            have spelled := Text.after?_eq_some_iff.mp found
            rw [← whole.2, List.cons_append, List.cons.injEq] at spelled
            simpa using spelled.2
          rw [← whole.2, List.singleton_append, Text.takeWhile_ne_append own.bare.angles.2] at others
          exact others.1 (start_of_start_append noEnd start)
        rw [List.cons_append, textsAfter]
        simp only [noMark, ih tags.tail others.2]
      · rw [tagsIn, if_neg isAngle] at others
        rw [List.cons_append, textsAfter_of_ne isAngle, ih tags.tail others]

theorem elementName_of_start {name tag : Text} (noBlank : ' ' ∉ name) (start : name ++ [' '] <+: tag) :
    elementName tag = name := by
  obtain ⟨rest, rfl⟩ := start
  rw [List.append_assoc]
  exact Text.takeWhile_ne_append noBlank rest

theorem isLinkTag_of_start {tag : Text} (start : "a href=\"#".toList <+: tag) : isLinkTag tag = true := by
  have named : "a".toList ++ [' '] <+: tag := List.IsPrefix.trans (by decide) start
  rw [isLinkTag, beq_iff_eq]
  exact elementName_of_start (by decide) named

theorem shows_no_link (tags : EachBegins '<' IsTag text)
    (noLink : ∀ tag ∈ tagsIn text, isLinkTag tag = false) : Shows linkMark text [] := by
  have spelled : linkMark = '<' :: "a href=\"#".toList := by decide
  rw [spelled]
  refine .of_tags (by decide) tags fun tag member start => ?_
  exact Bool.eq_false_iff.mp (noLink tag member) (isLinkTag_of_start start)

/-- No link is found among other landmarks. -/
theorem shows_no_link_of_landmarks (tags : EachBegins '<' IsTag text)
    (noLink : (landmarksIn text).filter isLinkTag = []) : Shows linkMark text [] := by
  rw [filter_landmarksIn (fun tag isOne => by rw [isLandmark, isOne, Bool.or_true]),
    List.filter_eq_nil_iff] at noLink
  exact shows_no_link tags fun tag member => Bool.eq_false_iff.mpr (noLink tag member)

theorem shows_tag {inside : Text} (own : OwnTag inside) (notLink : isLinkTag inside = false) :
    Shows linkMark (tagOf inside) [] := by
  refine shows_no_link (WellFormed.tag own).1 ?_
  rw [(WellFormed.tag own).2.1]
  exact List.forall_mem_singleton.mpr notLink

theorem shows_close {name : String} (listed : name ∈ elementNames) :
    Shows linkMark (tagOf ('/' :: name.toList)) [] := by
  refine shows_tag (.close listed) ?_
  have quiet := quiet_close name.toList
  rw [isLandmark, Bool.or_eq_false_iff] at quiet
  exact quiet.2

/-- An element that is no link shows the links in it. -/
theorem shows_element {tag : Text} {attributes : List (Text × Text)} {children : List Html}
    {shown : List Text} (sound : (Html.element tag attributes children).Sound) (other : tag ≠ "a".toList)
    (inner : Shows linkMark (Html.renderAll children) shown) :
    Shows linkMark (Html.element tag attributes children).render shown := by
  obtain ⟨⟨name, listed, rfl⟩, own, _⟩ := sound
  have notLink : isLinkTag (name.toList ++ Html.renderAttributes attributes) = false := by
    rw [isLinkTag, elementName_start (elementNames_plain name listed).2.2.2.1]
    exact beq_eq_false_iff_ne.mpr other
  have whole := ((shows_tag own notLink).append inner).append (shows_close listed)
  rwa [List.nil_append, List.append_nil] at whole

theorem shows_link {number : Nat} {anchor : Text} (numbered : anchor = Fragment.anchorOf number)
    (title : Text) :
    Shows linkMark (Html.element "a".toList [("href".toList, '#' :: anchor)] [.text title]).render
      [linkTo anchor title] := by
  have noAngle : '<' ∉ anchor := by
    rw [numbered]
    exact (Fragment.anchorOf_noAngle number).1
  have noTag : '<' ∉ linkTo anchor title := by
    simp [linkTo, noAngle, lt_notMem_escapeHtml]
  have spelled : linkMark = '<' :: "a href=\"#".toList := by decide
  have opening : Html.openTag "a".toList [("href".toList, '#' :: anchor)] =
      linkMark ++ (anchor ++ ['"', '>']) := by
    simp [Html.openTag, Html.renderAttributes]
    rfl
  have written : (Html.element "a".toList [("href".toList, '#' :: anchor)] [.text title]).render =
      linkMark ++ linkTo anchor title ++ tagOf ('/' :: "a".toList) := by
    rw [Html.render, Html.renderAll, Html.renderAll, Html.render, List.append_nil, opening, linkTo]
    simp only [List.append_assoc, List.cons_append, List.nil_append]
    rfl
  have inside : Shows linkMark ("a href=\"#".toList ++ linkTo anchor title) [] := by
    rw [spelled]
    refine .of_absent ?_
    rw [List.mem_append, not_or]
    exact ⟨by decide, noTag⟩
  have ending : Shows linkMark (tagOf ('/' :: "a".toList)) [] := shows_close (by simp)
  rw [written]
  exact .found spelled noTag (inside.append ending)

end CuratedHistory
