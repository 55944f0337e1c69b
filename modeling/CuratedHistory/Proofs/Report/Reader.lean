import Mathlib.Tactic.SplitIfs
import CuratedHistory.Proofs.Text.Splitting
import CuratedHistory.Report.Html

namespace CuratedHistory

/-! Rendered HTML, read back. A reader that looks for some mark finds it only where the
program has put it: what is escaped holds no angle, and a tag holds no other tag. -/

/-- What stands after each place where a mark stands, as far as the next tag. -/
def textsAfter (mark : Text) : Text → List Text
  | [] => []
  | c :: rest =>
      match Text.after? mark (c :: rest) with
      | some following => following.takeWhile (· ≠ '<') :: textsAfter mark rest
      | none => textsAfter mark rest

/-- The marks in a text with what stands after them, whatever follows the text. -/
def Shows (mark text : Text) (shown : List Text) : Prop :=
  ∀ rest, textsAfter mark (text ++ rest) = shown ++ textsAfter mark rest

/-- A mark begins with this tag, without the angles. -/
def OpensWith (mark first : Text) : Prop :=
  '>' ∉ first ∧ ∃ more, mark = '<' :: first ++ '>' :: more

/-- No angle stands in the text. -/
def NoAngle (text : Text) : Prop :=
  '<' ∉ text ∧ '>' ∉ text

instance (text : Text) : Decidable (NoAngle text) :=
  inferInstanceAs (Decidable (_ ∧ _))

/-- The inside of a tag that is not the given one. -/
structure OtherTag (first inside : Text) : Prop where
  angles : NoAngle inside
  ne : inside ≠ first

variable {mark text first inside following : Text} {shown others : List Text}

theorem NoAngle.append {one another : Text} (angles : NoAngle one) (anglesToo : NoAngle another) :
    NoAngle (one ++ another) := by
  simp only [NoAngle, List.mem_append, not_or]
  exact ⟨⟨angles.1, anglesToo.1⟩, angles.2, anglesToo.2⟩

theorem textsAfter_of_ne {start c : Char} {inner : Text} (other : c ≠ start) (rest : Text) :
    textsAfter (start :: inner) (c :: rest) = textsAfter (start :: inner) rest := by
  have differs : start ≠ c := other.symm
  simp [textsAfter, Text.after?, differs]

/-- Where a mark stands, what comes behind it is shown as far as the next tag. -/
theorem textsAfter_mark (start : Char) (inner rest : Text) :
    textsAfter (start :: inner) (start :: inner ++ rest) =
      rest.takeWhile (· ≠ '<') :: textsAfter (start :: inner) (inner ++ rest) := by
  have marked : Text.after? (start :: inner) (start :: inner ++ rest) = some rest :=
    Text.after?_eq_some_iff.mpr rfl
  rw [List.cons_append] at marked ⊢
  rw [textsAfter]
  simp only [marked]

namespace Shows

theorem nil (mark : Text) : Shows mark [] [] :=
  fun _ => rfl

theorem append (one : Shows mark text shown) (another : Shows mark following others) :
    Shows mark (text ++ following) (shown ++ others) := by
  intro rest
  rw [List.append_assoc, one, another, List.append_assoc]

theorem textsAfter_eq (shows : Shows mark text shown) : textsAfter mark text = shown := by
  have whole := shows []
  rwa [List.append_nil, textsAfter, List.append_nil] at whole

/-- Nothing is shown where the mark cannot begin. -/
theorem of_absent {start : Char} {inner : Text} (absent : start ∉ text) : Shows (start :: inner) text [] := by
  intro rest
  induction text with
  | nil => rfl
  | cons c text ih =>
      rw [List.mem_cons, not_or] at absent
      rw [List.cons_append, textsAfter_of_ne (Ne.symm absent.1), ih absent.2]

theorem of_notMem (opens : OpensWith mark first) (absent : '<' ∉ text) : Shows mark text [] := by
  obtain ⟨_, more, rfl⟩ := opens
  exact of_absent absent

/-- A mark that holds no other one shows what stands between it and the next tag. -/
theorem found {inner : Text} (isMark : mark = '<' :: inner) (noTag : '<' ∉ text)
    (tail : Shows mark (inner ++ text ++ '<' :: following) []) :
    Shows mark (mark ++ text ++ '<' :: following) [text] := by
  intro rest
  subst isMark
  have others := tail rest
  simp only [List.append_assoc, List.cons_append, List.nil_append] at others
  have whole : '<' :: inner ++ text ++ '<' :: following ++ rest =
      '<' :: inner ++ (text ++ '<' :: (following ++ rest)) := by simp
  rw [whole, textsAfter_mark, Text.takeWhile_ne_append noTag, others, List.singleton_append]

/-- A tag that is not the first one of the mark holds no mark, and begins none. -/
theorem tag (opens : OpensWith mark first) (other : OtherTag first inside) :
    Shows mark ('<' :: inside ++ ['>']) [] := by
  intro rest
  have noMark : Text.after? mark ('<' :: (inside ++ '>' :: rest)) = none := by
    rw [Option.eq_none_iff_forall_not_mem]
    intro following found
    -- Neither tag holds its end, so the first tag of a mark that stands here is this one.
    obtain ⟨noEnd, more, rfl⟩ := opens
    have same := Text.after?_eq_some_iff.mp found
    rw [List.cons_append, List.cons_append, List.cons.injEq, List.append_assoc, List.cons_append] at same
    exact other.ne (Text.eq_of_append_stop noEnd other.angles.2 same.2).symm
  have inner : '<' ∉ inside ++ ['>'] := by simp [other.angles.1]
  have after := of_notMem opens inner rest
  rw [List.append_assoc, List.singleton_append] at after
  simp only [List.cons_append, List.append_assoc, List.nil_append, textsAfter, noMark, after]

end Shows

theorem lt_notMem_escapeHtml (text : Text) : '<' ∉ escapeHtml text := by
  rw [escapeHtml, List.mem_flatMap]
  rintro ⟨c, _, inside⟩
  unfold escapeHtmlChar at inside
  split_ifs at inside with _ isLess <;> simp at inside
  exact isLess inside.symm

namespace Html

mutual

/-- Markup of which no tag is the given one, not even in part. -/
@[simp] def Without (first : Text) : Html → Prop
  | .text _ => True
  | .markup content => '<' ∉ content
  | .element tag attributes children =>
      OtherTag first (tag ++ renderAttributes attributes) ∧ OtherTag first ('/' :: tag) ∧
        AllWithout first children

@[simp] def AllWithout (first : Text) : List Html → Prop
  | [] => True
  | node :: rest => Without first node ∧ AllWithout first rest

end

theorem allWithout_iff {nodes : List Html} :
    AllWithout first nodes ↔ ∀ node ∈ nodes, node.Without first := by
  induction nodes with
  | nil => simp [AllWithout]
  | cons node rest ih => rw [AllWithout, ih, List.forall_mem_cons]

theorem renderAll_append (nodes later : List Html) :
    renderAll (nodes ++ later) = renderAll nodes ++ renderAll later := by
  induction nodes with
  | nil => rfl
  | cons node rest ih => rw [List.cons_append, renderAll, renderAll, ih, List.append_assoc]

theorem renderAll_string_text (start : String) (content : Text) :
    renderAll [Html.string start, .text content] = escapeHtml (start.toList ++ content) := by
  rw [renderAll, renderAll, renderAll, Html.string, render, render, List.append_nil, escapeHtml,
    escapeHtml, escapeHtml, List.flatMap_append]

theorem lt_notMem_string_text (start : String) (content : Text) :
    '<' ∉ renderAll [Html.string start, .text content] := by
  rw [renderAll_string_text]
  exact lt_notMem_escapeHtml _

end Html

namespace Shows

variable {tag : Text} {attributes : List (Text × Text)} {children : List Html} {node : Html}
  {nodes : List Html}

theorem element (opens : OpensWith mark first)
    (isOpen : OtherTag first (tag ++ Html.renderAttributes attributes))
    (isClosed : OtherTag first ('/' :: tag)) (inner : Shows mark (Html.renderAll children) shown) :
    Shows mark (Html.element tag attributes children).render shown := by
  have opening : Shows mark (Html.openTag tag attributes) [] := .tag opens isOpen
  have closing : Shows mark (Html.closeTag tag) [] := .tag opens isClosed
  have whole := (opening.append inner).append closing
  rw [List.nil_append, List.append_nil] at whole
  rwa [Html.render]

theorem cons (head : Shows mark node.render shown) (rest : Shows mark (Html.renderAll nodes) others) :
    Shows mark (Html.renderAll (node :: nodes)) (shown ++ others) := by
  rw [Html.renderAll]
  exact head.append rest

theorem singleton (shows : Shows mark node.render shown) : Shows mark (Html.renderAll [node]) shown := by
  rwa [Html.renderAll, Html.renderAll, List.append_nil]

mutual

theorem of_without (opens : OpensWith mark first) :
    ∀ node : Html, node.Without first → Shows mark node.render []
  | .text content, _ => .of_notMem opens (lt_notMem_escapeHtml content)
  | .markup _, absent => .of_notMem opens absent
  | .element _ _ children, ⟨isOpen, isClosed, inner⟩ =>
      .element opens isOpen isClosed (of_allWithout opens children inner)

theorem of_allWithout (opens : OpensWith mark first) :
    ∀ nodes : List Html, Html.AllWithout first nodes → Shows mark (Html.renderAll nodes) []
  | [], _ => .nil mark
  | node :: rest, ⟨head, others⟩ => (of_without opens node head).cons (of_allWithout opens rest others)

end

variable {outer : Text} {outerAttributes : List (Text × Text)} {contents : List Html}

/-- An element whose own tag is the mark shows its text. -/
theorem direct (opens : OpensWith mark first) (isMark : mark = Html.openTag tag attributes)
    (angles : NoAngle (tag ++ Html.renderAttributes attributes)) (isClosed : OtherTag first ('/' :: tag))
    (noTag : '<' ∉ Html.renderAll contents) :
    Shows mark (Html.element tag attributes contents).render [Html.renderAll contents] := by
  have name : Shows mark (tag ++ Html.renderAttributes attributes ++ ['>']) [] :=
    .of_notMem opens (by simp only [List.mem_append, angles.1]; decide)
  have text : Shows mark (Html.renderAll contents) [] := .of_notMem opens noTag
  have closing : Shows mark (Html.closeTag tag) [] := .tag opens isClosed
  have tail := (name.append text).append closing
  rw [Html.render, ← isMark]
  exact .found isMark noTag tail

/-- An element that starts with another one shows the text of the other one, if both
tags make the mark. -/
theorem nested (opens : OpensWith mark first)
    (isMark : mark = Html.openTag outer outerAttributes ++ Html.openTag tag attributes)
    (angles : NoAngle (outer ++ Html.renderAttributes outerAttributes))
    (isOpen : OtherTag first (tag ++ Html.renderAttributes attributes))
    (isClosed : OtherTag first ('/' :: tag)) (outerClosed : OtherTag first ('/' :: outer))
    (noTag : '<' ∉ Html.renderAll contents) (rest : Html.AllWithout first nodes) :
    Shows mark (Html.element outer outerAttributes (.element tag attributes contents :: nodes)).render
      [Html.renderAll contents] := by
  have name : Shows mark (outer ++ Html.renderAttributes outerAttributes ++ ['>']) [] :=
    .of_notMem opens (by simp only [List.mem_append, angles.1]; decide)
  have start : Shows mark (Html.openTag tag attributes) [] := .tag opens isOpen
  have text : Shows mark (Html.renderAll contents) [] := .of_notMem opens noTag
  have stop : Shows mark (Html.closeTag tag) [] := .tag opens isClosed
  have others : Shows mark (Html.renderAll nodes) [] := .of_allWithout opens nodes rest
  have closing : Shows mark (Html.closeTag outer) [] := .tag opens outerClosed
  have tail := ((name.append start).append text).append ((stop.append others).append closing)
  have written : (Html.element outer outerAttributes (.element tag attributes contents :: nodes)).render =
      mark ++ Html.renderAll contents ++
        (Html.closeTag tag ++ Html.renderAll nodes ++ Html.closeTag outer) := by
    simp only [isMark, Html.render, Html.renderAll, List.append_assoc]
  rw [written]
  exact .found isMark noTag tail

end Shows

end CuratedHistory
