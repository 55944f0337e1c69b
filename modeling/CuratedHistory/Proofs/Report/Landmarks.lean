import CuratedHistory.Proofs.Report.Sound

namespace CuratedHistory

/-! What is looked for in a report: the sections of blocks, the headers of commits, the notes on
failures and the links, all of them read off its text by their tags. Each block makes one section,
in order, with one header in it for each of its records. -/

/-- The start tag of the header of a commit. -/
def headerTag : Text := "div class=\"commit-header\"".toList

/-- The start tag of a note in place of something that is not available. -/
def failureTag : Text := "p class=\"notice failure\"".toList

/-- The start tag of the section of a block. -/
def sectionTag (kind : BlockKind) (number : Nat) : Text :=
  "section".toList ++ Html.renderAttributes
    [("class".toList, (Fragment.kindClass kind).toList), ("id".toList, Fragment.anchorOf number)]

/-- The start tag of a link to an anchor. -/
def linkTag (anchor : Text) : Text :=
  "a".toList ++ Html.renderAttributes [("href".toList, '#' :: anchor)]

def isSectionTag (tag : Text) : Bool :=
  elementName tag == "section".toList

def isHeaderTag (tag : Text) : Bool :=
  tag == headerTag

def isFailureTag (tag : Text) : Bool :=
  tag == failureTag

def isLinkTag (tag : Text) : Bool :=
  elementName tag == "a".toList

def isLandmark (tag : Text) : Bool :=
  isSectionTag tag || isHeaderTag tag || isFailureTag tag || isLinkTag tag

/-- The start tags of the sections in a text, in order. -/
def sectionsIn (html : Text) : List Text :=
  (tagsIn html).filter isSectionTag

/-- The start tags of the headers of commits in a text. -/
def headersIn (html : Text) : List Text :=
  (tagsIn html).filter isHeaderTag

/-- The start tags of the notes on failures in a text. -/
def failuresIn (html : Text) : List Text :=
  (tagsIn html).filter isFailureTag

/-- All of these tags, and those of links, in order. -/
def landmarksIn (html : Text) : List Text :=
  (tagsIn html).filter isLandmark

theorem filter_landmarksIn {isOne : Text → Bool} (landmark : ∀ tag, isOne tag = true → isLandmark tag = true)
    (html : Text) : (landmarksIn html).filter isOne = (tagsIn html).filter isOne := by
  rw [landmarksIn, List.filter_filter]
  refine List.filter_congr fun tag _ => ?_
  cases one : isOne tag with
  | false => rw [Bool.false_and]
  | true => rw [landmark tag one, Bool.and_self]

theorem sectionsIn_eq (html : Text) : sectionsIn html = (landmarksIn html).filter isSectionTag :=
  (filter_landmarksIn (fun tag isOne => by simp only [isLandmark, isOne, Bool.true_or]) html).symm

theorem headersIn_eq (html : Text) : headersIn html = (landmarksIn html).filter isHeaderTag :=
  (filter_landmarksIn
    (fun tag isOne => by simp only [isLandmark, isOne, Bool.or_true, Bool.true_or]) html).symm

theorem failuresIn_eq (html : Text) : failuresIn html = (landmarksIn html).filter isFailureTag :=
  (filter_landmarksIn
    (fun tag isOne => by simp only [isLandmark, isOne, Bool.or_true, Bool.true_or]) html).symm

/-! The four kinds of landmarks are told apart by the names of their elements. -/

theorem landmark_headerTag : isSectionTag headerTag = false ∧ isHeaderTag headerTag = true ∧
    isFailureTag headerTag = false ∧ isLinkTag headerTag = false := by
  decide +kernel

theorem landmark_failureTag : isSectionTag failureTag = false ∧ isHeaderTag failureTag = false ∧
    isFailureTag failureTag = true ∧ isLinkTag failureTag = false := by
  decide +kernel

theorem elementName_landmarks :
    elementName headerTag = "div".toList ∧ elementName failureTag = "p".toList := by
  decide +kernel

theorem isHeaderTag_of_name {tag : Text} (other : elementName tag ≠ "div".toList) :
    isHeaderTag tag = false := by
  rw [isHeaderTag, beq_eq_false_iff_ne]
  rintro rfl
  exact other elementName_landmarks.1

theorem isFailureTag_of_name {tag : Text} (other : elementName tag ≠ "p".toList) :
    isFailureTag tag = false := by
  rw [isFailureTag, beq_eq_false_iff_ne]
  rintro rfl
  exact other elementName_landmarks.2

theorem elementName_sectionTag (kind : BlockKind) (number : Nat) :
    elementName (sectionTag kind number) = "section".toList :=
  elementName_start (elementNames_plain "section" (by simp)).2.2.2.1 _

theorem elementName_linkTag (anchor : Text) : elementName (linkTag anchor) = "a".toList :=
  elementName_start (elementNames_plain "a" (by simp)).2.2.2.1 _

theorem landmark_sectionTag (kind : BlockKind) (number : Nat) :
    isSectionTag (sectionTag kind number) = true ∧ isHeaderTag (sectionTag kind number) = false ∧
      isFailureTag (sectionTag kind number) = false ∧ isLinkTag (sectionTag kind number) = false := by
  have name := elementName_sectionTag kind number
  refine ⟨by rw [isSectionTag, name, beq_self_eq_true], isHeaderTag_of_name ?_, isFailureTag_of_name ?_, ?_⟩
  · rw [name]
    decide
  · rw [name]
    decide
  · rw [isLinkTag, name]
    decide

theorem landmark_linkTag (anchor : Text) :
    isSectionTag (linkTag anchor) = false ∧ isHeaderTag (linkTag anchor) = false ∧
      isFailureTag (linkTag anchor) = false ∧ isLinkTag (linkTag anchor) = true := by
  have name := elementName_linkTag anchor
  refine ⟨?_, isHeaderTag_of_name ?_, isFailureTag_of_name ?_, by rw [isLinkTag, name, beq_self_eq_true]⟩
  · rw [isSectionTag, name]
    decide
  · rw [name]
    decide
  · rw [name]
    decide

/-- Of the tags that are always the same, only two are landmarks. -/
theorem quiet_fixedTags : ∀ tag ∈ fixedTags, tag ≠ "div class=\"commit-header\"" →
    tag ≠ "p class=\"notice failure\"" → isLandmark tag.toList = false := by
  decide +kernel

/-- Only sections, divisions, paragraphs and links can be landmarks, whatever their attributes are. -/
theorem quiet_of_name {tag : Text} (other : elementName tag ∉ ["section", "div", "p", "a"].map String.toList) :
    isLandmark tag = false := by
  simp only [List.map_cons, List.map_nil, List.mem_cons, List.not_mem_nil, or_false, not_or] at other
  obtain ⟨notSection, notDivision, notParagraph, notLink⟩ := other
  rw [isLandmark, isSectionTag, isLinkTag, beq_eq_false_iff_ne.mpr notSection,
    beq_eq_false_iff_ne.mpr notLink, isHeaderTag_of_name notDivision, isFailureTag_of_name notParagraph]
  rfl

theorem quiet_close (name : Text) : isLandmark ('/' :: name) = false := by
  have slash : (elementName ('/' :: name)).head? = some '/' := by
    rw [elementName, List.takeWhile_cons_of_pos (by decide), List.head?_cons]
  refine quiet_of_name fun listed => ?_
  have others : ∀ other ∈ ["section", "div", "p", "a"].map String.toList, other.head? ≠ some '/' := by
    decide
  exact others _ listed slash

theorem quiet_start {name : String} (listed : name ∈ elementNames)
    (other : name.toList ∉ ["section", "div", "p", "a"].map String.toList)
    (attributes : List (Text × Text)) :
    isLandmark (name.toList ++ Html.renderAttributes attributes) = false := by
  refine quiet_of_name ?_
  rwa [elementName_start (elementNames_plain name listed).2.2.2.1]

theorem landmarksIn_of_notMem {text : Text} (absent : '<' ∉ text) : landmarksIn text = [] := by
  rw [landmarksIn, tagsIn_of_notMem absent, List.filter_nil]

theorem landmarksIn_append {one : Text} (tags : EachBegins '<' IsTag one) (another : Text) :
    landmarksIn (one ++ another) = landmarksIn one ++ landmarksIn another := by
  rw [landmarksIn, tagsIn_append tags, List.filter_append, landmarksIn, landmarksIn]

theorem landmarksIn_tag {inside : Text} (own : OwnTag inside) :
    landmarksIn (tagOf inside) = [inside].filter isLandmark := by
  rw [landmarksIn, (WellFormed.tag own).2.1]

theorem filter_quiet {tag : Text} (quiet : isLandmark tag = false) : [tag].filter isLandmark = [] := by
  rw [List.filter_cons_of_neg (Bool.not_eq_true _ ▸ quiet), List.filter_nil]

theorem filter_landmark {tag : Text} (isOne : isLandmark tag = true) : [tag].filter isLandmark = [tag] := by
  rw [List.filter_cons_of_pos isOne, List.filter_nil]

namespace Html

mutual

/-- The landmarks of a tree. -/
@[simp] def landmarks : Html → List Text
  | .text _ => []
  | .markup content => landmarksIn content
  | .element tag attributes children =>
      [tag ++ renderAttributes attributes].filter isLandmark ++ allLandmarks children

@[simp] def allLandmarks : List Html → List Text
  | [] => []
  | node :: rest => node.landmarks ++ allLandmarks rest

end

theorem landmarks_newline : Html.newline.landmarks = [] :=
  rfl

variable {nodes later : List Html} {attributes : List (Text × Text)}

mutual

theorem Sound.landmarksIn_render : ∀ node : Html, node.Sound → landmarksIn node.render = node.landmarks
  | .text content, _ => landmarksIn_of_notMem (lt_notMem_escapeHtml content)
  | .markup _, _ => rfl
  | .element tag attributes children, ⟨⟨name, listed, isName⟩, own, inner⟩ => by
      have startTag := (WellFormed.tag own).1
      have within := (AllSound.wellFormed children inner).tags
      have stop : OwnTag ('/' :: tag) := isName ▸ .close listed
      -- An end tag is no landmark, so what the element adds to its children is its start tag at most.
      have written : (Html.element tag attributes children).render =
          tagOf (tag ++ renderAttributes attributes) ++ renderAll children ++ tagOf ('/' :: tag) := rfl
      rw [written, landmarksIn_append (startTag.append within), landmarksIn_append startTag,
        landmarksIn_tag own, landmarksIn_tag stop, AllSound.landmarksIn_renderAll children inner,
        filter_quiet (quiet_close tag), List.append_nil, landmarks]

theorem AllSound.landmarksIn_renderAll :
    ∀ nodes : List Html, AllSound nodes → landmarksIn (renderAll nodes) = allLandmarks nodes
  | [], _ => rfl
  | node :: rest, ⟨head, others⟩ => by
      rw [renderAll, landmarksIn_append (Sound.wellFormed node head).tags,
        Sound.landmarksIn_render node head, AllSound.landmarksIn_renderAll rest others, allLandmarks]

end

theorem allLandmarks_append (nodes later : List Html) :
    allLandmarks (nodes ++ later) = allLandmarks nodes ++ allLandmarks later := by
  induction nodes with
  | nil => rfl
  | cons node rest ih => rw [List.cons_append, allLandmarks, allLandmarks, ih, List.append_assoc]

theorem allLandmarks_eq_flatMap (nodes : List Html) : allLandmarks nodes = nodes.flatMap landmarks := by
  induction nodes with
  | nil => rfl
  | cons node rest ih => rw [allLandmarks, ih, List.flatMap_cons]

theorem allLandmarks_lines (nodes : List Html) : allLandmarks (Html.lines nodes) = allLandmarks nodes := by
  induction nodes with
  | nil => rfl
  | cons node rest ih =>
      have step : Html.lines (node :: rest) = node :: newline :: Html.lines rest := rfl
      rw [step, allLandmarks, allLandmarks, ih, allLandmarks, landmarks_newline, List.nil_append]

@[simp] def AllQuiet : List Html → Prop
  | [] => True
  | node :: rest => node.landmarks = [] ∧ AllQuiet rest

theorem allQuiet_iff : AllQuiet nodes ↔ ∀ node ∈ nodes, node.landmarks = [] := by
  induction nodes with
  | nil => simp [AllQuiet]
  | cons node rest ih => rw [AllQuiet, ih, List.forall_mem_cons]

theorem AllQuiet.allLandmarks_eq (quiet : AllQuiet nodes) : allLandmarks nodes = [] := by
  rw [allLandmarks_eq_flatMap, List.flatMap_eq_nil_iff]
  exact allQuiet_iff.mp quiet

theorem AllQuiet.append (one : AllQuiet nodes) (another : AllQuiet later) : AllQuiet (nodes ++ later) := by
  rw [allQuiet_iff] at *
  exact List.forall_mem_append.mpr ⟨one, another⟩

theorem AllQuiet.lines (quiet : AllQuiet nodes) : AllQuiet (Html.lines nodes) := by
  rw [allQuiet_iff] at *
  rw [Html.lines, List.forall_mem_flatMap]
  intro node member
  rw [List.forall_mem_cons, List.forall_mem_singleton]
  exact ⟨quiet node member, rfl⟩

/-- The tag is always the same, and no landmark. -/
@[simp] def IsQuiet (tag : String) : Prop :=
  tag ∈ fixedTags ∧ tag ≠ "div class=\"commit-header\"" ∧ tag ≠ "p class=\"notice failure\""

theorem landmarks_plain {tag : String} (isQuiet : IsQuiet tag) (nodes : List Html) :
    (Html.plain tag nodes).landmarks = allLandmarks nodes := by
  have quiet := quiet_fixedTags tag isQuiet.1 isQuiet.2.1 isQuiet.2.2
  rw [plain, landmarks, renderAttributes, List.flatMap_nil, List.append_nil, filter_quiet quiet,
    List.nil_append]

theorem landmarks_classed {tag className : String}
    (isQuiet : IsQuiet (tag ++ " class=\"" ++ className ++ "\"")) (nodes : List Html) :
    (Html.classed tag className nodes).landmarks = allLandmarks nodes := by
  have quiet := quiet_fixedTags _ isQuiet.1 isQuiet.2.1 isQuiet.2.2
  have written : tag.toList ++ renderAttributes [("class".toList, className.toList)] =
      (tag ++ " class=\"" ++ className ++ "\"").toList := by
    simp [renderAttributes]
  rw [classed, landmarks, written, filter_quiet quiet, List.nil_append]

theorem quiet_plain {tag : String} (isQuiet : IsQuiet tag) (inner : AllQuiet nodes) :
    (Html.plain tag nodes).landmarks = [] :=
  (landmarks_plain isQuiet nodes).trans inner.allLandmarks_eq

theorem quiet_classed {tag className : String}
    (isQuiet : IsQuiet (tag ++ " class=\"" ++ className ++ "\"")) (inner : AllQuiet nodes) :
    (Html.classed tag className nodes).landmarks = [] :=
  (landmarks_classed isQuiet nodes).trans inner.allLandmarks_eq

theorem quiet_element {name : String} (listed : name ∈ elementNames)
    (other : name.toList ∉ ["section", "div", "p", "a"].map String.toList) (inner : AllQuiet nodes) :
    (Html.element name.toList attributes nodes).landmarks = [] := by
  rw [landmarks, filter_quiet (quiet_start listed other attributes), inner.allLandmarks_eq,
    List.append_nil]

theorem landmarks_header (inner : AllQuiet nodes) :
    (Html.classed "div" "commit-header" nodes).landmarks = [headerTag] := by
  have spelled : "div".toList ++ renderAttributes [("class".toList, "commit-header".toList)] =
      headerTag := by
    decide +kernel
  have isOne : isLandmark headerTag = true := by
    rw [isLandmark, landmark_headerTag.2.1, Bool.or_true, Bool.true_or, Bool.true_or]
  rw [classed, landmarks, spelled, filter_landmark isOne, inner.allLandmarks_eq, List.append_nil]

theorem landmarks_failure (inner : AllQuiet nodes) :
    (Html.classed "p" "notice failure" nodes).landmarks = [failureTag] := by
  have spelled : "p".toList ++ renderAttributes [("class".toList, "notice failure".toList)] =
      failureTag := by
    decide +kernel
  have isOne : isLandmark failureTag = true := by
    rw [isLandmark, landmark_failureTag.2.2.1, Bool.or_true, Bool.true_or]
  rw [classed, landmarks, spelled, filter_landmark isOne, inner.allLandmarks_eq, List.append_nil]

end Html

/-- What landmarks tell: how many notes on failures there are, and what else there is, in order. -/
structure Tells (landmarks others : List Text) (failures : Nat) : Prop where
  others : landmarks.filter (fun tag => !isFailureTag tag) = others
  failures : landmarks.countP isFailureTag = failures

namespace Tells

variable {landmarks later others further : List Text} {failures more : Nat}

theorem of_no_failure (none : ∀ tag ∈ landmarks, isFailureTag tag = false) :
    Tells landmarks landmarks 0 where
  others := List.filter_eq_self.mpr fun tag member => by rw [none tag member]; rfl
  failures := List.countP_eq_zero.mpr fun tag member => by rw [none tag member]; exact Bool.false_ne_true

theorem failure : Tells [failureTag] [] 1 := by
  have isFailure := landmark_failureTag.2.2.1
  constructor
  · rw [List.filter_cons_of_neg (by rw [isFailure]; decide), List.filter_nil]
  · rw [List.countP_cons_of_pos isFailure, List.countP_nil]

theorem append (one : Tells landmarks others failures) (another : Tells later further more) :
    Tells (landmarks ++ later) (others ++ further) (failures + more) where
  others := by rw [List.filter_append, one.others, another.others]
  failures := by rw [List.countP_append, one.failures, another.failures]

/-- Landmarks of another kind are not among the notes. -/
theorem filter_eq {isOne : Text → Bool} (tells : Tells landmarks others failures)
    (notFailure : isOne failureTag = false) : landmarks.filter isOne = others.filter isOne := by
  rw [← tells.others, List.filter_filter]
  refine List.filter_congr fun tag _ => ?_
  cases isFailure : isFailureTag tag with
  | false => rw [Bool.not_false, Bool.and_true]
  | true =>
      rw [isFailureTag, beq_iff_eq] at isFailure
      rw [isFailure, notFailure, Bool.false_and]

end Tells

end CuratedHistory
