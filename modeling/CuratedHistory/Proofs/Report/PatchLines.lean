import CuratedHistory.Proofs.Text.Lines
import CuratedHistory.Report.DiffLine
import CuratedHistory.Repository.Diff

namespace CuratedHistory

/-! The lines of a patch that is printed part by part, and the kinds that are read off them. Which
part a line comes from is nowhere in the text, and all that the reader keeps is whether it is in a
hunk. -/

variable {inHunk : Bool} {line content text : Text} {lines : List Text} {origin : LineOrigin}
  {parts : List PatchPart}

def LineOrigin.kind : LineOrigin → DiffLineKind
  | .kept => .context
  | .removed => .removed
  | .added => .added

/-- The line that tells that the line before it has no line feed. -/
def missingFeedNote : Text :=
  "\\ No newline at end of file".toList

namespace PatchPart

/-- The kind of the lines that a part prints. -/
def kind : PatchPart → DiffLineKind
  | .fileHeader _ | .binary _ => .fileHeader
  | .hunkHeader _ => .hunkHeader
  | .line origin _ => origin.kind
  | .noLineFeed => .context

/-- The lines that a part prints. A line without a line feed of its own is ended by the part behind
it, which is one line more. -/
def printedLines : PatchPart → List Text
  | .fileHeader text | .binary text | .hunkHeader text => Text.lines text
  | .line origin content => [Text.withoutReturn (origin.mark :: content.takeWhile (· ≠ '\n'))]
  | .noLineFeed => [missingFeedNote]

def shownLines (part : PatchPart) : List (DiffLineKind × Text) :=
  part.printedLines.map (part.kind, ·)

theorem text_fileHeader (text : Text) : (fileHeader text).text = text :=
  rfl

theorem text_binary (text : Text) : (binary text).text = text :=
  rfl

theorem text_hunkHeader (text : Text) : (hunkHeader text).text = text :=
  rfl

theorem text_line (origin : LineOrigin) (content : Text) :
    (PatchPart.line origin content).text = origin.mark :: content :=
  rfl

theorem text_noLineFeed : noLineFeed.text = '\n' :: (missingFeedNote ++ ['\n']) := by
  decide +kernel

end PatchPart

/-- Parts as they are printed, inside a hunk or not. A file begins with its own mark and has no
line like that of a hunk in its header; a hunk begins with its mark; and the content of a line has
a line feed at its end, or none and the part that tells so behind it. -/
inductive Printed : Bool → List PatchPart → Prop where
  | done {inHunk : Bool} : Printed inHunk []
  | fileHeader {inHunk : Bool} {first : Text} {others : List Text} {rest : List PatchPart}
      (start : fileStart <+: first) (noHunk : ∀ line ∈ others, ¬ hunkStart <+: line)
      (unbroken : ∀ line ∈ first :: others, '\n' ∉ line) (later : Printed false rest) :
      Printed inHunk (.fileHeader (unlines (first :: others)) :: rest)
  | binary {line : Text} {rest : List PatchPart} (noHunk : ¬ hunkStart <+: line) (unbroken : '\n' ∉ line)
      (later : Printed false rest) : Printed false (.binary (unlines [line]) :: rest)
  | hunkHeader {inHunk : Bool} {line : Text} {rest : List PatchPart} (start : hunkStart <+: line)
      (unbroken : '\n' ∉ line) (later : Printed true rest) :
      Printed inHunk (.hunkHeader (unlines [line]) :: rest)
  | line {origin : LineOrigin} {content : Text} {rest : List PatchPart} (unbroken : '\n' ∉ content)
      (later : Printed true rest) : Printed true (.line origin (content ++ ['\n']) :: rest)
  | lastLine {origin : LineOrigin} {content : Text} {rest : List PatchPart} (unbroken : '\n' ∉ content)
      (later : Printed true rest) : Printed true (.line origin content :: .noLineFeed :: rest)

namespace DiffLineKind

theorem ofLine_fileStart (start : fileStart <+: line) : ofLine inHunk line = .fileHeader := by
  unfold ofLine
  rw [if_pos (List.isPrefixOf_iff_prefix.mpr start)]

theorem ofLine_hunkStart (start : hunkStart <+: line) : ofLine inHunk line = .hunkHeader := by
  have noFile : ¬ fileStart.isPrefixOf line = true := by
    rw [List.isPrefixOf_iff_prefix]
    intro file
    have same := List.prefix_of_prefix_length_le start file (by decide)
    exact absurd same (by decide)
  unfold ofLine
  rw [if_neg noFile, if_pos (List.isPrefixOf_iff_prefix.mpr start)]

theorem ofLine_outside (noHunk : ¬ hunkStart <+: line) : ofLine false line = .fileHeader := by
  have other : ¬ hunkStart.isPrefixOf line = true := by rwa [List.isPrefixOf_iff_prefix]
  unfold ofLine
  rw [if_neg other]
  split_ifs with _ outside
  · rfl
  · rfl
  · exact absurd rfl outside

theorem ofLine_inside (origin : LineOrigin) (content : Text) :
    ofLine true (origin.mark :: content) = origin.kind := by
  cases origin <;> rfl

end DiffLineKind

/-- Lines outside hunks stay outside, whatever they begin with but the mark of a hunk. -/
theorem classifyFrom_outside (noHunk : ∀ line ∈ lines, ¬ hunkStart <+: line) (following : List Text) :
    classifyFrom false (lines ++ following) =
      lines.map (DiffLineKind.fileHeader, ·) ++ classifyFrom false following := by
  induction lines with
  | nil => rfl
  | cons line lines ih =>
      rw [List.forall_mem_cons] at noHunk
      rw [List.cons_append, classifyFrom, DiffLineKind.ofLine_outside noHunk.1]
      simp only [DiffLineKind.staysInHunk, ih noHunk.2]
      rfl

theorem noHunk_withoutReturn (noHunk : ∀ line ∈ lines, ¬ hunkStart <+: line) :
    ∀ line ∈ lines.map Text.withoutReturn, ¬ hunkStart <+: line := by
  rw [List.forall_mem_map]
  exact fun line member start => noHunk line member (start.trans (Text.withoutReturn_isPrefix line))

/-- A line of content is of the kind of its origin, whatever its content looks like. -/
theorem classifyFrom_content (origin : LineOrigin) (unbroken : '\n' ∉ content) (rest : Text) :
    classifyFrom true (Text.lines (origin.mark :: (content ++ '\n' :: rest))) =
      (origin.kind, Text.withoutReturn (origin.mark :: content)) :: classifyFrom true (Text.lines rest) := by
  have noFeed : '\n' ∉ origin.mark :: content := by
    rw [List.mem_cons, not_or]
    exact ⟨by cases origin <;> decide, unbroken⟩
  have marked : Text.withoutReturn (origin.mark :: content) = origin.mark :: Text.withoutReturn content := by
    cases content with
    | nil => cases origin <;> rfl
    | cons c content => exact Text.withoutReturn_cons_cons _ _ _
  rw [← List.cons_append, Text.lines_append_newline noFeed, classifyFrom, marked,
    DiffLineKind.ofLine_inside]
  cases origin <;> rfl

theorem takeWhile_unbroken (unbroken : '\n' ∉ content) : content.takeWhile (· ≠ '\n') = content := by
  rw [List.takeWhile_eq_self_iff]
  exact Text.forall_ne_of_notMem unbroken

/-! What one part is read as, whatever text follows it. -/

theorem map_lines_unlines (kind : DiffLineKind) (unbroken : ∀ line ∈ lines, '\n' ∉ line) :
    (Text.lines (unlines lines)).map (kind, ·) = (lines.map Text.withoutReturn).map (kind, ·) := by
  rw [Text.lines_unlines unbroken]

theorem classifyFrom_fileHeader {first : Text} (start : fileStart <+: first)
    (noHunk : ∀ line ∈ lines, ¬ hunkStart <+: line) (unbroken : ∀ line ∈ first :: lines, '\n' ∉ line)
    (rest : Text) :
    classifyFrom inHunk (Text.lines (unlines (first :: lines) ++ rest)) =
      PatchPart.shownLines (.fileHeader (unlines (first :: lines))) ++ classifyFrom false (Text.lines rest) := by
  have mark : fileStart <+: Text.withoutReturn first := Text.isPrefix_withoutReturn (by decide) start
  have shown : PatchPart.shownLines (.fileHeader (unlines (first :: lines))) =
      ((first :: lines).map Text.withoutReturn).map (DiffLineKind.fileHeader, ·) :=
    map_lines_unlines .fileHeader unbroken
  rw [Text.lines_unlines_append unbroken, shown, List.map_cons, List.cons_append, classifyFrom,
    DiffLineKind.ofLine_fileStart mark]
  simp only [DiffLineKind.staysInHunk, classifyFrom_outside (noHunk_withoutReturn noHunk), List.map_cons,
    List.cons_append]

theorem classifyFrom_binary (noHunk : ¬ hunkStart <+: line) (unbroken : '\n' ∉ line) (rest : Text) :
    classifyFrom false (Text.lines (unlines [line] ++ rest)) =
      PatchPart.shownLines (.binary (unlines [line])) ++ classifyFrom false (Text.lines rest) := by
  have single : ∀ other ∈ [line], '\n' ∉ other := List.forall_mem_singleton.mpr unbroken
  have shown : PatchPart.shownLines (.binary (unlines [line])) =
      ([line].map Text.withoutReturn).map (DiffLineKind.fileHeader, ·) :=
    map_lines_unlines .fileHeader single
  rw [Text.lines_unlines_append single, shown,
    classifyFrom_outside (noHunk_withoutReturn (List.forall_mem_singleton.mpr noHunk))]

theorem classifyFrom_hunkHeader (start : hunkStart <+: line) (unbroken : '\n' ∉ line) (rest : Text) :
    classifyFrom inHunk (Text.lines (unlines [line] ++ rest)) =
      PatchPart.shownLines (.hunkHeader (unlines [line])) ++ classifyFrom true (Text.lines rest) := by
  have mark : hunkStart <+: Text.withoutReturn line := Text.isPrefix_withoutReturn (by decide) start
  have single : ∀ other ∈ [line], '\n' ∉ other := List.forall_mem_singleton.mpr unbroken
  have shown : PatchPart.shownLines (.hunkHeader (unlines [line])) =
      ([line].map Text.withoutReturn).map (DiffLineKind.hunkHeader, ·) :=
    map_lines_unlines .hunkHeader single
  rw [Text.lines_unlines_append single, shown, List.map_singleton, List.singleton_append, classifyFrom,
    DiffLineKind.ofLine_hunkStart mark]
  simp only [DiffLineKind.staysInHunk, List.map_singleton, List.singleton_append]

theorem classifyFrom_line (origin : LineOrigin) (unbroken : '\n' ∉ content) (rest : Text) :
    classifyFrom true (Text.lines (PatchPart.text (.line origin (content ++ ['\n'])) ++ rest)) =
      PatchPart.shownLines (.line origin (content ++ ['\n'])) ++ classifyFrom true (Text.lines rest) := by
  have shown : PatchPart.shownLines (.line origin (content ++ ['\n'])) =
      [(origin.kind, Text.withoutReturn (origin.mark :: content))] := by
    rw [PatchPart.shownLines, PatchPart.printedLines, Text.takeWhile_ne_append unbroken]
    rfl
  have written : PatchPart.text (.line origin (content ++ ['\n'])) ++ rest =
      origin.mark :: (content ++ '\n' :: rest) := by
    simp [PatchPart.text_line]
  rw [written, classifyFrom_content origin unbroken, shown, List.singleton_append]

/-- A line without a line feed is ended by the one in front of the note. -/
theorem classifyFrom_lastLine (origin : LineOrigin) (unbroken : '\n' ∉ content) (rest : Text) :
    classifyFrom true (Text.lines (PatchPart.text (.line origin content) ++ (PatchPart.text .noLineFeed ++ rest))) =
      PatchPart.shownLines (.line origin content) ++
        (PatchPart.shownLines .noLineFeed ++ classifyFrom true (Text.lines rest)) := by
  have shown : PatchPart.shownLines (.line origin content) =
      [(origin.kind, Text.withoutReturn (origin.mark :: content))] := by
    rw [PatchPart.shownLines, PatchPart.printedLines, takeWhile_unbroken unbroken]
    rfl
  have written : PatchPart.text (.line origin content) ++ (PatchPart.text .noLineFeed ++ rest) =
      origin.mark :: (content ++ '\n' :: (missingFeedNote ++ '\n' :: rest)) := by
    simp [PatchPart.text_line, PatchPart.text_noLineFeed]
  have noFeed : '\n' ∉ missingFeedNote := by decide
  have whole : Text.withoutReturn missingFeedNote = missingFeedNote := by decide +kernel
  have isContext : DiffLineKind.ofLine true missingFeedNote = .context := by decide +kernel
  rw [written, classifyFrom_content origin unbroken, shown, Text.lines_append_newline noFeed, whole, classifyFrom,
    isContext]
  rfl

/-- Each line of a patch is read as what the part that prints it says. -/
theorem Printed.classifyFrom_text (printed : Printed inHunk parts) :
    classifyFrom inHunk (Text.lines (parts.flatMap PatchPart.text)) = parts.flatMap PatchPart.shownLines := by
  -- Being in a hunk is all that the reader takes from one part to the next.
  induction printed with
  | done => rfl
  | fileHeader start noHunk unbroken later ih =>
      rw [List.flatMap_cons, List.flatMap_cons, PatchPart.text_fileHeader,
        classifyFrom_fileHeader start noHunk unbroken, ih]
  | binary noHunk unbroken later ih =>
      rw [List.flatMap_cons, List.flatMap_cons, PatchPart.text_binary, classifyFrom_binary noHunk unbroken, ih]
  | hunkHeader start unbroken later ih =>
      rw [List.flatMap_cons, List.flatMap_cons, PatchPart.text_hunkHeader,
        classifyFrom_hunkHeader start unbroken, ih]
  | @line origin content rest unbroken later ih =>
      rw [List.flatMap_cons, List.flatMap_cons, classifyFrom_line origin unbroken, ih]
  | @lastLine origin content rest unbroken later ih =>
      rw [List.flatMap_cons, List.flatMap_cons, List.flatMap_cons, List.flatMap_cons,
        classifyFrom_lastLine origin unbroken, ih]

theorem PatchPart.countP_shownLines (changes : origin ≠ .kept) (part : PatchPart) :
    part.shownLines.countP (·.1 = origin.kind) = if part.hasOrigin origin then 1 else 0 := by
  rw [shownLines, List.countP_map]
  cases part with
  | line found content =>
      by_cases same : found = origin
      · subst same
        simp [Function.comp_def, kind, printedLines, hasOrigin]
      · have other : found.kind ≠ origin.kind := by
          cases found <;> cases origin <;> first | contradiction | decide
        simp [Function.comp_def, kind, hasOrigin, same, other]
  | _ =>
      cases origin with
      | kept => contradiction
      | _ => simp [Function.comp_def, kind, LineOrigin.kind, hasOrigin]

/-- As many lines are of the kind of an origin as parts have this origin, if the lines are changes. -/
theorem countP_flatMap_shownLines (changes : origin ≠ .kept) (parts : List PatchPart) :
    (parts.flatMap PatchPart.shownLines).countP (·.1 = origin.kind) = parts.countP (PatchPart.hasOrigin origin) := by
  induction parts with
  | nil => rfl
  | cons part rest ih =>
      rw [List.flatMap_cons, List.countP_append, List.countP_cons, PatchPart.countP_shownLines changes, ih,
        Nat.add_comm]

/-- The text of a patch tells of each line what the part that prints it says, and the kinds of the
lines give the counts of the patch. -/
structure Patch.Tells (patch : Patch) (parts : List PatchPart) : Prop where
  lines : classifyLines patch.text = parts.flatMap PatchPart.shownLines
  insertions : (classifyLines patch.text).countP (·.1 = .added) = patch.insertions
  deletions : (classifyLines patch.text).countP (·.1 = .removed) = patch.deletions

theorem Printed.tells (printed : Printed false parts) : (Patch.ofParts parts).Tells parts := by
  have lines : classifyLines (Patch.ofParts parts).text = parts.flatMap PatchPart.shownLines :=
    printed.classifyFrom_text
  have added : LineOrigin.added ≠ .kept := by decide
  have removed : LineOrigin.removed ≠ .kept := by decide
  refine ⟨lines, ?_, ?_⟩
  · rw [lines]
    exact countP_flatMap_shownLines added parts
  · rw [lines]
    exact countP_flatMap_shownLines removed parts

end CuratedHistory
