import CuratedHistory.Proofs.Report.Links
import CuratedHistory.Proofs.Text.Lines
import CuratedHistory.Proofs.Traversal
import CuratedHistory.Report.Markup

namespace CuratedHistory

/-! The lines of a diff as they are shown, escaped or colored, and how they are read back from
either form with their kinds. -/

variable {text line : Text} {kind : DiffLineKind} {entry : DiffLineKind × Text} {texts : List Text}

theorem classifyFrom_lines (inHunk : Bool) (lines : List Text) :
    (classifyFrom inHunk lines).map Prod.snd = lines := by
  induction lines generalizing inHunk with
  | nil => rfl
  | cons line rest ih => rw [classifyFrom, List.map_cons, ih]

theorem classifyLines_lines (text : Text) : (classifyLines text).map Prod.snd = Text.lines text :=
  classifyFrom_lines false _

theorem newline_notMem_classified (member : entry ∈ classifyLines text) : '\n' ∉ entry.2 := by
  refine Text.newline_notMem_of_mem_lines text entry.2 ?_
  rw [← classifyLines_lines]
  exact List.mem_map_of_mem member

/-- The lines that line feeds end, each with all that stands in front of its line feed. -/
def Text.fedLines (text : Text) : List Text :=
  (pieces '\n' text).dropLast

theorem Text.fedLines_unlines (unbroken : ∀ line ∈ texts, '\n' ∉ line) : fedLines (unlines texts) = texts := by
  rw [fedLines, unlines, pieces_flatMap unbroken, List.dropLast_concat]

namespace DiffLineKind

def all : List DiffLineKind :=
  [.fileHeader, .hunkHeader, .added, .removed, .context]

def ofClassName? (name : Text) : Option DiffLineKind :=
  all.find? (·.className.toList = name)

theorem ofClassName?_className (kind : DiffLineKind) : ofClassName? kind.className.toList = some kind := by
  cases kind <;> decide

theorem quote_notMem_className (kind : DiffLineKind) : '"' ∉ kind.className.toList := by
  cases kind <;> decide

theorem newline_notMem_className (kind : DiffLineKind) : '\n' ∉ kind.className.toList := by
  cases kind <;> decide

theorem newline_notMem_color (kind : DiffLineKind) : '\n' ∉ kind.color := by
  cases kind <;> decide

theorem color_eq_nil_iff : kind.color = [] ↔ kind = .context := by
  cases kind <;> decide

theorem color_head (paints : kind.color ≠ []) : kind.color.head? = some '\x1b' := by
  cases kind with
  | context => contradiction
  | _ => rfl

end DiffLineKind

theorem newline_notMem_escapeHtml (unbroken : '\n' ∉ text) : '\n' ∉ escapeHtml text := by
  rw [escapeHtml, List.mem_flatMap]
  rintro ⟨c, member, inside⟩
  exact unbroken (mem_escapeHtmlChar (by decide) inside ▸ member)

def spanOpening : Text :=
  "<span class=\"".toList

def spanClosing : Text :=
  "</span>".toList

/-- A line of a kind as it is written, with its text escaped. -/
def spanOf (kind : DiffLineKind) (escaped : Text) : Text :=
  spanOpening ++ (kind.className.toList ++ '"' :: '>' :: (escaped ++ spanClosing))

def diffOpening : Text :=
  "<pre class=\"diff\">".toList

def diffClosing : Text :=
  "</pre>".toList

/-- The kind and the text of a line that is written as one element. -/
def readSpan? (span : Text) : Option (DiffLineKind × Text) := do
  let behind ← Text.after? spanOpening span
  let (name, rest) := Text.splitAtFirst (· = '"') behind
  let kind ← DiffLineKind.ofClassName? name
  let escaped ← Text.before? spanClosing (rest.drop 2)
  return (kind, unescapeHtml escaped)

/-- The kinds and the texts of lines that are written as HTML. -/
def readEscaped? (html : Text) : Option (List (DiffLineKind × Text)) := do
  let behind ← Text.after? diffOpening html
  let spans ← Text.before? diffClosing behind
  (Text.fedLines spans).mapM readSpan?

theorem readSpan?_spanOf (kind : DiffLineKind) (line : Text) :
    readSpan? (spanOf kind (escapeHtml line)) = some (kind, line) := by
  have opened : Text.after? spanOpening (spanOf kind (escapeHtml line)) =
      some (kind.className.toList ++ '"' :: '>' :: (escapeHtml line ++ spanClosing)) :=
    Text.after?_eq_some_iff.mpr rfl
  have name : ∀ c ∈ kind.className.toList, decide (c = '"') = false := by
    intro c member
    rw [decide_eq_false_iff_not]
    rintro rfl
    exact kind.quote_notMem_className member
  have split : Text.splitAtFirst (· = '"')
      (kind.className.toList ++ '"' :: '>' :: (escapeHtml line ++ spanClosing)) =
        (kind.className.toList, '"' :: '>' :: (escapeHtml line ++ spanClosing)) :=
    Text.splitAtFirst_append name (by simp)
  have closed : Text.before? spanClosing (escapeHtml line ++ spanClosing) = some (escapeHtml line) :=
    Text.before?_eq_some_iff.mpr rfl
  simp only [readSpan?, opened, split, kind.ofClassName?_className, Option.bind_eq_bind, Option.bind_some,
    List.drop_succ_cons, List.drop_zero, closed, unescapeHtml_escapeHtml]
  rfl

theorem newline_notMem_spanOf (unbroken : '\n' ∉ line) : '\n' ∉ spanOf kind (escapeHtml line) := by
  have opening : '\n' ∉ spanOpening := by decide
  have closing : '\n' ∉ spanClosing := by decide
  simp [spanOf, opening, closing, kind.newline_notMem_className, newline_notMem_escapeHtml unbroken]

theorem renderAll_ofLine (entry : DiffLineKind × Text) :
    Html.renderAll (Markup.ofLine entry) = spanOf entry.1 (escapeHtml entry.2) ++ ['\n'] := by
  have opening : Html.openTag "span".toList [("class".toList, entry.1.className.toList)] =
      spanOpening ++ (entry.1.className.toList ++ ['"', '>']) := by
    simp [Html.openTag, Html.renderAttributes]
    rfl
  have closing : Html.closeTag "span".toList = spanClosing := by decide
  have feed : escapeHtml ['\n'] = ['\n'] := by decide
  simp only [Markup.ofLine, Html.classed, Html.newline, Html.renderAll, Html.render, opening, closing, feed,
    spanOf, List.append_assoc, List.append_nil, List.cons_append, List.nil_append]

theorem renderAll_flatMap_ofLine (entries : List (DiffLineKind × Text)) :
    Html.renderAll (entries.flatMap Markup.ofLine) =
      unlines (entries.map fun entry => spanOf entry.1 (escapeHtml entry.2)) := by
  induction entries with
  | nil => rfl
  | cons entry rest ih =>
      rw [List.flatMap_cons, Html.renderAll_append, renderAll_ofLine, ih]
      rfl

theorem render_escapedHtml (text : Text) : (Markup.escapedHtml text).render =
    diffOpening ++ (unlines ((classifyLines text).map fun entry => spanOf entry.1 (escapeHtml entry.2)) ++
      diffClosing) := by
  have opening : Html.openTag "pre".toList [("class".toList, "diff".toList)] = diffOpening := by decide
  have closing : Html.closeTag "pre".toList = diffClosing := by decide
  rw [Markup.escapedHtml, Html.classed, Html.render, opening, closing, renderAll_flatMap_ofLine,
    List.append_assoc]

theorem readEscaped?_render (text : Text) :
    readEscaped? (Markup.escapedHtml text).render = some (classifyLines text) := by
  have unbroken : ∀ span ∈ (classifyLines text).map fun entry => spanOf entry.1 (escapeHtml entry.2),
      '\n' ∉ span := by
    rw [List.forall_mem_map]
    exact fun entry member => newline_notMem_spanOf (newline_notMem_classified member)
  have opened : Text.after? diffOpening (Markup.escapedHtml text).render =
      some (unlines ((classifyLines text).map fun entry => spanOf entry.1 (escapeHtml entry.2)) ++
        diffClosing) :=
    Text.after?_eq_some_iff.mpr (render_escapedHtml text).symm
  have closed (spans : Text) : Text.before? diffClosing (spans ++ diffClosing) = some spans :=
    Text.before?_eq_some_iff.mpr rfl
  simp only [readEscaped?, opened, closed, Text.fedLines_unlines unbroken, Option.bind_eq_bind,
    Option.bind_some]
  rw [List.mapM_map]
  calc (classifyLines text).mapM (readSpan? ∘ fun entry => spanOf entry.1 (escapeHtml entry.2))
      = some ((classifyLines text).map id) :=
        mapM_eq_some_map fun entry _ => readSpan?_spanOf entry.1 entry.2
    _ = some (classifyLines text) := congrArg some (List.map_id _)

/-- The kind whose color a line begins with. -/
def colorOf? (line : Text) : Option DiffLineKind :=
  DiffLineKind.all.find? fun kind => kind.color ≠ [] ∧ kind.color.isPrefixOf line

/-- The kind and the text of a line that may be colored: what stands between its color and the
reset, or else all of it. -/
def uncolor (line : Text) : DiffLineKind × Text :=
  match colorOf? line with
  | none => (.context, line)
  | some kind =>
      let painted := line.drop kind.color.length
      (kind, (Text.before? colorReset painted).getD painted)

/-- No color begins another one. -/
theorem colorOf?_color (paints : kind ≠ .context) (rest : Text) : colorOf? (kind.color ++ rest) = some kind := by
  cases kind with
  | context => contradiction
  | _ => rfl

theorem colorOf?_plain (noEscape : line.head? ≠ some '\x1b') : colorOf? line = none := by
  rw [colorOf?, List.find?_eq_none]
  intro kind _ found
  simp only [decide_eq_true_eq, List.isPrefixOf_iff_prefix] at found
  obtain ⟨paints, rest, rfl⟩ := found
  rw [List.head?_append_of_ne_nil _ paints] at noEscape
  exact noEscape (DiffLineKind.color_head paints)

theorem uncolor_colorizeLine (plain : kind = .context → line.head? ≠ some '\x1b') :
    uncolor (colorizeLine kind line) = (kind, line) := by
  unfold colorizeLine
  split_ifs with isPlain
  · have context := DiffLineKind.color_eq_nil_iff.mp isPlain
    rw [uncolor, colorOf?_plain (plain context), context]
  · have paints : kind ≠ .context := mt DiffLineKind.color_eq_nil_iff.mpr isPlain
    have reset : Text.before? colorReset (line ++ colorReset) = some line :=
      Text.before?_eq_some_iff.mpr rfl
    simp only [uncolor, List.append_assoc, colorOf?_color paints, List.drop_left, reset, Option.getD_some]

theorem newline_notMem_colorizeLine (unbroken : '\n' ∉ line) : '\n' ∉ colorizeLine kind line := by
  have reset : '\n' ∉ colorReset := by decide
  unfold colorizeLine
  split_ifs
  · exact unbroken
  · simp [kind.newline_notMem_color, unbroken, reset]

theorem newline_notMem_colored (text : Text) :
    ∀ line ∈ (classifyLines text).map fun entry => colorizeLine entry.1 entry.2, '\n' ∉ line := by
  rw [List.forall_mem_map]
  exact fun entry member => newline_notMem_colorizeLine (newline_notMem_classified member)

theorem fedLines_colorize (text : Text) :
    Text.fedLines (colorize text) = (classifyLines text).map fun entry => colorizeLine entry.1 entry.2 :=
  Text.fedLines_unlines (newline_notMem_colored text)

theorem colorReset_getLast (line : Text) : (line ++ colorReset).getLast? = some 'm' :=
  List.getLast?_append_of_ne_nil line (by decide)

/-- What a reader of lines makes of a colored diff: one carriage return at the end of a line is
taken for a part of the line break, unless a reset stands behind it. -/
theorem lines_colorize (text : Text) : Text.lines (colorize text) = (classifyLines text).map fun entry =>
    if entry.1 = .context then Text.withoutReturn entry.2 else colorizeLine entry.1 entry.2 := by
  rw [colorize, Text.lines_unlines (newline_notMem_colored text), List.map_map]
  refine List.map_congr_left fun entry _ => ?_
  rw [Function.comp_apply, colorizeLine]
  split_ifs with isPlain isContext isContext
  · rfl
  · exact absurd (DiffLineKind.color_eq_nil_iff.mp isPlain) isContext
  · exact absurd (DiffLineKind.color_eq_nil_iff.mpr isContext) isPlain
  · rw [Text.withoutReturn, colorReset_getLast, if_neg (by decide)]

/-- Both forms of a diff show its lines, each with its kind, in order and as they are. The escaped
form is one element for each line, and its text is told from the markup around it. The colored form
is one line for each line, and what stands between its color and the reset is the line, as long as
no line without a color begins like one. Whoever takes a carriage return for a part of the line
break loses one at the end of a context line. -/
theorem shown_lines_exact (text : Text) :
    (classifyLines text).map Prod.snd = Text.lines text ∧
      (∃ html, Markup.escaped.convert text = .ok html ∧
        html.render = diffOpening ++
          (unlines ((classifyLines text).map fun entry => spanOf entry.1 (escapeHtml entry.2)) ++ diffClosing) ∧
        (∀ entry ∈ classifyLines text, '<' ∉ escapeHtml entry.2 ∧ '\n' ∉ escapeHtml entry.2 ∧
          unescapeHtml (escapeHtml entry.2) = entry.2) ∧
        readEscaped? html.render = some (classifyLines text)) ∧
      Text.fedLines (colorize text) = ((classifyLines text).map fun entry => colorizeLine entry.1 entry.2) ∧
      ((∀ entry ∈ classifyLines text, entry.1 = .context → entry.2.head? ≠ some '\x1b') →
        (Text.fedLines (colorize text)).map uncolor = classifyLines text) ∧
      Text.lines (colorize text) = (classifyLines text).map fun entry =>
        if entry.1 = .context then Text.withoutReturn entry.2 else colorizeLine entry.1 entry.2 := by
  refine ⟨classifyLines_lines text, ⟨_, rfl, render_escapedHtml text, ?_, readEscaped?_render text⟩,
    fedLines_colorize text, fun plain => ?_, lines_colorize text⟩
  · exact fun entry member => ⟨lt_notMem_escapeHtml _,
      newline_notMem_escapeHtml (newline_notMem_classified member), unescapeHtml_escapeHtml _⟩
  · rw [fedLines_colorize, List.map_map]
    calc (classifyLines text).map (uncolor ∘ fun entry => colorizeLine entry.1 entry.2)
        = (classifyLines text).map id :=
          List.map_congr_left fun entry member => uncolor_colorizeLine (plain entry member)
      _ = classifyLines text := List.map_id _

/-- Carriage returns, marks of other kinds at the start of a line, markup and an empty line. -/
def motley : Text :=
  "diff --git a/x b/x\n@@ -1,3 +1,2 @@\n---a\r\n+<&>\r\r\n\n\\ No newline at end of file".toList

theorem shown_lines_exact_motley :
    classifyLines motley = [
        (.fileHeader, "diff --git a/x b/x".toList), (.hunkHeader, "@@ -1,3 +1,2 @@".toList),
        (.removed, "---a".toList), (.added, "+<&>\r".toList), (.context, []),
        (.context, "\\ No newline at end of file".toList)] ∧
      (∀ entry ∈ classifyLines motley, entry.1 = .context → entry.2.head? ≠ some '\x1b') ∧
      readEscaped? (Markup.escapedHtml motley).render = some (classifyLines motley) ∧
      (Text.fedLines (colorize motley)).map uncolor = classifyLines motley := by
  have plain : ∀ entry ∈ classifyLines motley, entry.1 = .context → entry.2.head? ≠ some '\x1b' := by
    decide +kernel
  obtain ⟨_, ⟨_, converted, _, _, isRead⟩, _, uncolored, _⟩ := shown_lines_exact motley
  cases converted
  exact ⟨by decide +kernel, plain, isRead, uncolored plain⟩

end CuratedHistory
