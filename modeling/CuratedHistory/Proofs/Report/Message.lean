import CuratedHistory.Proofs.History.Message
import CuratedHistory.Proofs.Report.Escaping
import CuratedHistory.Proofs.Report.Sound

namespace CuratedHistory

/-! The text that a report shows, without its tags and with its entities replaced, and in it the
message of a commit, as the header of the commit shows it. -/

variable {html following text shown others inside : Text}

/-- What stands outside of the tags of a text that begins inside of one or not. -/
def outsideTags (isInside : Bool) : Text → Text
  | [] => []
  | c :: rest =>
      if isInside then outsideTags (c ≠ '>') rest
      else if c = '<' then outsideTags true rest
      else c :: outsideTags false rest

def shownText (html : Text) : Text :=
  unescapeHtml (outsideTags false html)

theorem outsideTags_text (noTag : '<' ∉ text) (rest : Text) :
    outsideTags false (text ++ rest) = text ++ outsideTags false rest := by
  induction text with
  | nil => rfl
  | cons c text ih =>
      rw [List.mem_cons, not_or] at noTag
      rw [List.cons_append, outsideTags, if_neg Bool.false_ne_true, if_neg (Ne.symm noTag.1), ih noTag.2,
        List.cons_append]

theorem outsideTags_tag (noEnd : '>' ∉ inside) (rest : Text) :
    outsideTags false (tagOf inside ++ rest) = outsideTags false rest := by
  have upToEnd : outsideTags true (inside ++ '>' :: rest) = outsideTags false rest := by
    induction inside with
    | nil => rfl
    | cons c inside ih =>
        rw [List.mem_cons, not_or] at noEnd
        have goesOn : decide (c ≠ '>') = true := decide_eq_true (Ne.symm noEnd.1)
        rw [List.cons_append, outsideTags, if_pos rfl, goesOn, ih noEnd.2]
  rw [tagOf, List.cons_append, List.append_assoc, outsideTags, if_neg Bool.false_ne_true, if_pos rfl]
  exact upToEnd

/-- The text is shown as the other one, whatever follows it. -/
def ShownAs (html shown : Text) : Prop :=
  ∀ rest, shownText (html ++ rest) = shown ++ shownText rest

namespace ShownAs

variable {tag : Text} {attributes : List (Text × Text)} {node : Html} {nodes children : List Html}

theorem nil : ShownAs [] [] :=
  fun _ => rfl

theorem append (one : ShownAs html shown) (another : ShownAs following others) :
    ShownAs (html ++ following) (shown ++ others) := by
  intro rest
  rw [List.append_assoc, one, another, List.append_assoc]

theorem shownText_eq (shows : ShownAs html shown) : shownText html = shown := by
  have whole := shows []
  have nothing : shownText [] = [] := rfl
  rwa [List.append_nil, nothing, List.append_nil] at whole

theorem escaped (text : Text) : ShownAs (escapeHtml text) text := by
  intro rest
  rw [shownText, outsideTags_text (lt_notMem_escapeHtml text), unescapeHtml_escapeHtml_append, shownText]

theorem tagOf (noEnd : '>' ∉ inside) : ShownAs (tagOf inside) [] := by
  intro rest
  rw [shownText, outsideTags_tag noEnd, List.nil_append, shownText]

theorem hexadecimal (hex : text.Hexadecimal) : ShownAs text text := by
  have noDigits : escapedChars.all (!isHexDigit ·) = true := by decide
  have same : escapeHtml text = text := by
    refine escapeHtml_of_plain fun c member isEscaped => ?_
    have noDigit := List.all_eq_true.mp noDigits c isEscaped
    rw [hex c member] at noDigit
    contradiction
  have shows := escaped text
  rwa [same] at shows

theorem middot : ShownAs "&middot;".toList "&middot;".toList := by
  intro rest
  rw [shownText, outsideTags_text (by decide)]
  rfl

theorem element (noEnd : '>' ∉ tag ++ Html.renderAttributes attributes)
    (inner : ShownAs (Html.renderAll children) shown) :
    ShownAs (Html.element tag attributes children).render shown := by
  have opening : ShownAs (Html.openTag tag attributes) [] := .tagOf noEnd
  have noEndToo : '>' ∉ '/' :: tag := by
    rw [List.mem_append, not_or] at noEnd
    rw [List.mem_cons, not_or]
    exact ⟨by decide, noEnd.1⟩
  have closing : ShownAs (Html.closeTag tag) [] := .tagOf noEndToo
  have whole := (opening.append inner).append closing
  rw [List.nil_append, List.append_nil] at whole
  rwa [Html.render]

theorem cons (head : ShownAs node.render shown) (rest : ShownAs (Html.renderAll nodes) others) :
    ShownAs (Html.renderAll (node :: nodes)) (shown ++ others) := by
  rw [Html.renderAll]
  exact head.append rest

theorem singleton (shows : ShownAs node.render shown) : ShownAs (Html.renderAll [node]) shown := by
  rwa [Html.renderAll, Html.renderAll, List.append_nil]

theorem textNode (content : Text) : ShownAs (Html.text content).render content :=
  escaped content

theorem middotNode : ShownAs (Html.markup "&middot;".toList).render "&middot;".toList :=
  middot

theorem shaCode (noEnd : '>' ∉ "code".toList ++ Html.renderAttributes attributes) (hex : text.Hexadecimal) :
    ShownAs (Block.shaCode attributes text).render text := by
  have hash : ShownAs (Html.markup text).render text := hexadecimal hex
  exact element noEnd hash.singleton

end ShownAs

/-- The commit with another message. -/
def Commit.withMessage (commit : Commit) (message : Text) : Commit :=
  { commit with message }

namespace Block

open Html

variable {short said : Text} {commit : Commit} {details : Html}

/-- The header of a commit with the given details, apart from its message. -/
def headerWith (short : Text) (details : Html) (subject body : Text) : Html :=
  classed "div" "commit-header" (
    [newline, plain "h3" [shaCode [("class".toList, "sha".toList)] short, .text (' ' :: subject)], newline,
      details, newline] ++
    if body = [] then [] else [classed "pre" "message" [.text body], newline])

/-- The message is in the title and in the text below the details, and nowhere else. -/
theorem exists_details (commit : Commit) : ∃ details,
    (commit.hash.Hexadecimal → ∃ said, ShownAs details.render said) ∧ ∀ short message,
      commitHeader short (commit.withMessage message) =
        headerWith short details (commit.withMessage message).subject (commit.withMessage message).body := by
  refine ⟨classed "p" "meta" [
    .text (commit.author ++ " <".toList ++ commit.authorEmail ++ "> ".toList),
    .markup "&middot;".toList, .text (' ' :: commit.time.minuteText ++ [' ']),
    .markup "&middot;".toList, Html.string " ", shaCode [] commit.hash], fun hex => ?_, fun _ _ => rfl⟩
  have hash : ShownAs (shaCode [] commit.hash).render commit.hash := .shaCode (by decide) hex
  exact ⟨_, .element (by decide) ((ShownAs.textNode _).cons (ShownAs.middotNode.cons ((ShownAs.textNode _).cons
    (ShownAs.middotNode.cons ((ShownAs.textNode _).cons hash.singleton)))))⟩

theorem headerWith_render (short : Text) (details : Html) (subject body : Text) :
    (headerWith short details subject body).render =
      "<div class=\"commit-header\">\n<h3><code class=\"sha\">".toList ++ short ++ "</code> ".toList ++
        escapeHtml subject ++ "</h3>\n".toList ++ details.render ++ ['\n'] ++
        (if body = [] then []
        else "<pre class=\"message\">".toList ++ escapeHtml body ++ "</pre>\n".toList) ++ "</div>".toList := by
  have blank : escapeHtmlChar ' ' = [' '] := rfl
  have feed : newline.render = ['\n'] := rfl
  rw [headerWith]
  split <;>
    simp [classed, plain, shaCode, render, renderAll, openTag, closeTag, renderAttributes, escapeHtml_cons, blank,
      feed]

theorem headerWith_shown (hex : short.Hexadecimal) (shows : ShownAs details.render said) (subject body : Text) :
    ShownAs (headerWith short details subject body).render ('\n' :: short ++ ' ' :: subject ++ '\n' :: said ++
      '\n' :: if body = [] then [] else body ++ ['\n']) := by
  have feed : ShownAs newline.render ['\n'] := .textNode ['\n']
  have code : ShownAs (shaCode [("class".toList, "sha".toList)] short).render short := .shaCode (by decide) hex
  have title : ShownAs
      (plain "h3" [shaCode [("class".toList, "sha".toList)] short, .text (' ' :: subject)]).render
      (short ++ ' ' :: subject) := .element (by decide) (code.cons (ShownAs.textNode _).singleton)
  have message : ShownAs (renderAll (if body = [] then [] else [classed "pre" "message" [.text body], newline]))
      (if body = [] then [] else body ++ ['\n']) := by
    split
    · exact .nil
    · have block : ShownAs (classed "pre" "message" [.text body]).render body :=
        .element (by decide) (ShownAs.textNode body).singleton
      exact block.cons feed.singleton
  have whole := (feed.cons (title.cons (feed.cons (shows.cons feed.singleton)))).append message
  rw [← renderAll_append] at whole
  have header : ShownAs (headerWith short details subject body).render _ := .element (by decide) whole
  simpa using header

end Block

open Block

/-- The subject and the body of a commit are cut from its message without a loss. The header of the
commit has both escaped, each in one place, and shows every character of the message that can be
seen once, in order. What else stands in the header does not depend on the message. -/
theorem Commit.message_shown_once :
    (∀ commit : Commit, '\n' ∉ commit.subject ∧ commit.subject <+: commit.message ∧
      ((∀ c ∈ commit.body.head?, isBlank c = false) ∧ ∀ c ∈ commit.body.getLast?, isBlank c = false) ∧
      Text.visible commit.subject ++ Text.visible commit.body = Text.visible commit.message) ∧
    (∀ commit : Commit, ∃ details, ∀ short message,
      (commitHeader short (commit.withMessage message)).render =
        "<div class=\"commit-header\">\n<h3><code class=\"sha\">".toList ++ short ++ "</code> ".toList ++
          escapeHtml (commit.withMessage message).subject ++ "</h3>\n".toList ++ details ++ ['\n'] ++
          (if (commit.withMessage message).body = [] then []
          else "<pre class=\"message\">".toList ++ escapeHtml (commit.withMessage message).body ++
            "</pre>\n".toList) ++ "</div>".toList) ∧
    ∀ short : Text, ∀ commit : Commit, short.Hexadecimal → commit.hash.Hexadecimal →
      ∃ before between, ∀ message,
        Text.visible (shownText (commitHeader short (commit.withMessage message)).render) =
          before ++ Text.visible (commit.withMessage message).subject ++ between ++
            Text.visible (commit.withMessage message).body := by
  refine ⟨fun commit => ?_, fun commit => ?_, fun short commit hexShort hex => ?_⟩
  · exact ⟨commit.newline_notMem_subject, commit.subject_isPrefix, commit.body_ends,
      commit.visible_subject_append_body⟩
  · obtain ⟨details, _, same⟩ := exists_details commit
    refine ⟨details.render, fun short message => ?_⟩
    rw [same, headerWith_render]
  · obtain ⟨details, shows, same⟩ := exists_details commit
    obtain ⟨said, isSaid⟩ := shows hex
    refine ⟨Text.visible short, Text.visible said, fun message => ?_⟩
    have feed (text : Text) : Text.visible ('\n' :: text) = Text.visible text := rfl
    have blank (text : Text) : Text.visible (' ' :: text) = Text.visible text := rfl
    have below (body : Text) : Text.visible (if body = [] then [] else body ++ ['\n']) = Text.visible body := by
      split
      · rename_i nothing
        rw [nothing]
      · rw [Text.visible_append]
        exact List.append_nil _
    rw [same, (headerWith_shown hexShort isSaid _ _).shownText_eq]
    simp only [Text.visible_append, feed, blank, below]

/-- A commit whose message ends its first line with two carriage returns, of which the line keeps one,
and has markup above and below. -/
def markedCommit : Commit where
  hash := "c0ffee".toList
  message := "1 < 2 &amp;\r\r\n\u2028\r\n <b>\u0085".toList
  author := "Ann".toList
  authorEmail := []
  time := .epoch
  parents := []

theorem Commit.message_shown_once_marked :
    markedCommit.hash.Hexadecimal ∧ markedCommit.subject = "1 < 2 &amp;\r".toList ∧
      markedCommit.body = "<b>".toList ∧
      Text.visible markedCommit.subject ++ Text.visible markedCommit.body = "1<2&amp;<b>".toList ∧
      ∃ before between, Text.visible (shownText (commitHeader "c0".toList markedCommit).render) =
        before ++ "1<2&amp;".toList ++ between ++ "<b>".toList := by
  obtain ⟨cut, _, header⟩ := message_shown_once
  obtain ⟨_, _, _, whole⟩ := cut markedCommit
  have hex : ∀ text : Text, text.all isHexDigit = true → text.Hexadecimal := fun _ => List.all_eq_true.mp
  obtain ⟨before, between, shown⟩ := header "c0".toList markedCommit (hex _ (by decide)) (hex _ (by decide))
  exact ⟨hex _ (by decide), by decide, by decide, whole, before, between, shown markedCommit.message⟩

end CuratedHistory
