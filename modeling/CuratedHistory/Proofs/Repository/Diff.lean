import CuratedHistory.Proofs.History.Abbreviation
import CuratedHistory.Proofs.Report.PatchLines
import CuratedHistory.Proofs.Repository.Range
import CuratedHistory.Proofs.Text.Decimal
import CuratedHistory.Proofs.Text.Utf8
import CuratedHistory.Repository.Listing

namespace CuratedHistory

/-! Diffs are printed part by part as their reader expects it, whatever is in the files. -/

variable {change : FileChange} {parts rest : List PatchPart} {line bytes : Bytes} {path text : Text} {c : Char}
  {old new : List TreeFile}

/-- The content of a line as far as its line feed, which only its last byte can be. -/
def LineContent (line : Bytes) : Prop :=
  lineFeed ∉ line.dropLast

theorem LineContent.notMem (content : LineContent line) (unfed : line.getLast? ≠ some lineFeed) :
    lineFeed ∉ line := by
  cases line using List.reverseRecOn with
  | nil => exact List.not_mem_nil
  | append_singleton front last =>
      rw [LineContent, List.dropLast_concat] at content
      rw [List.mem_append, List.mem_singleton, not_or]
      refine ⟨content, fun same => unfed ?_⟩
      rw [List.getLast?_concat, same]

theorem lineContent_of_mem (content : Bytes) : ∀ line ∈ contentLines content, LineContent line := by
  fun_induction contentLines content with
  | case1 => exact List.forall_mem_nil _
  | case2 rest ih => exact List.forall_mem_cons.mpr ⟨List.not_mem_nil, ih⟩
  | case3 byte rest other none ih => exact List.forall_mem_singleton.mpr List.not_mem_nil
  | case4 byte rest other line following found ih =>
      rw [found, List.forall_mem_cons] at ih
      refine List.forall_mem_cons.mpr ⟨?_, ih.2⟩
      cases line with
      | nil => exact List.not_mem_nil
      | cons next line =>
          rw [LineContent, List.dropLast_cons_cons, List.mem_cons, not_or]
          exact ⟨Ne.symm other, ih.1⟩

theorem unlines_singleton (line : Text) : unlines [line] = line ++ ['\n'] :=
  List.flatMap_singleton _ _

/-- Edits make up no lines. -/
theorem forall_markedEdits {property : Bytes → Prop} {old new : List (Bytes × Bool)}
    (first : ∀ entry ∈ old, property entry.1) (second : ∀ entry ∈ new, property entry.1) :
    ∀ edit ∈ markedEdits old new, property edit.line := by
  fun_induction markedEdits old new with
  | case1 => exact List.forall_mem_nil _
  | case2 line changed old ih =>
      rw [List.forall_mem_cons] at first
      exact List.forall_mem_cons.mpr ⟨first.1, ih first.2 second⟩
  | case3 next changed new ih =>
      rw [List.forall_mem_cons] at second
      exact List.forall_mem_cons.mpr ⟨second.1, ih first second.2⟩
  | case4 line old next nextChanged new ih =>
      rw [List.forall_mem_cons] at first
      exact List.forall_mem_cons.mpr ⟨first.1, ih first.2 second⟩
  | case5 =>
      rename_i ih
      rw [List.forall_mem_cons] at second
      exact List.forall_mem_cons.mpr ⟨second.1, ih first second.2⟩
  | case6 =>
      rename_i ih
      rw [List.forall_mem_cons] at first second
      exact List.forall_mem_cons.mpr ⟨first.1, ih first.2 second.2⟩
  | case7 =>
      rename_i ih
      rw [List.forall_mem_cons] at first
      exact List.forall_mem_cons.mpr ⟨first.1, ih first.2 second⟩

theorem forall_lineEdits {property : Bytes → Prop} {old new : List Bytes} (first : ∀ line ∈ old, property line)
    (second : ∀ line ∈ new, property line) : ∀ edit ∈ lineEdits old new, property edit.line := by
  refine forall_markedEdits ?_ ?_
  · exact fun entry member => first entry.1 (List.of_mem_zip member).1
  · exact fun entry member => second entry.1 (List.of_mem_zip member).1

/-- Hunks show edits that are there. -/
theorem Hunk.forall_ofMarked {property : LineEdit → Prop} {oldBefore newBefore : Nat}
    {entries : List (LineEdit × Bool)} (each : ∀ entry ∈ entries, property entry.1) :
    ∀ hunk ∈ ofMarked oldBefore newBefore entries, ∀ edit ∈ hunk.edits, property edit := by
  induction entries generalizing oldBefore newBefore with
  | nil => exact List.forall_mem_nil _
  | cons entry rest ih =>
      obtain ⟨edit, isShown⟩ := entry
      rw [List.forall_mem_cons] at each
      have later := @ih (oldBefore + oldLines [edit]) (newBefore + newLines [edit]) each.2
      unfold ofMarked
      dsimp only
      split_ifs
      · exact later
      · split
        · rename_i hunk following same
          rw [same, List.forall_mem_cons] at later
          exact List.forall_mem_cons.mpr ⟨List.forall_mem_cons.mpr ⟨each.1, later.1⟩, later.2⟩
        · exact List.forall_mem_cons.mpr ⟨List.forall_mem_singleton.mpr each.1, later⟩

theorem Hunk.forall_ofEdits {property : LineEdit → Prop} {edits : List LineEdit}
    (each : ∀ edit ∈ edits, property edit) : ∀ hunk ∈ ofEdits edits, ∀ edit ∈ hunk.edits, property edit :=
  forall_ofMarked fun entry member => each entry.1 (List.of_mem_zip member).1

namespace FileChange

theorem newline_notMem_quotedByte (byte : UInt8) : '\n' ∉ quotedByte byte := by
  have each : ∀ code : Fin 256, '\n' ∉ quotedByte (UInt8.ofNat code) := by decide +kernel
  have this := each ⟨byte.toNat, byte.toNat_lt⟩
  rwa [UInt8.ofNat_toNat] at this

/-- A path is shown on one line, quoted if it must be. -/
theorem newline_notMem_shownPath (side : Char) (path : Text) : '\n' ∉ shownPath side path := by
  unfold shownPath
  dsimp only
  split_ifs with plain
  · intro inside
    have feed : lineFeed ∈ Utf8.encode (side :: '/' :: path) :=
      List.mem_flatMap.mpr ⟨'\n', inside, by decide⟩
    exact absurd (List.all_eq_true.mp plain _ feed) (by decide)
  · simp [newline_notMem_quotedByte]

/-- A line that can stand in the header of a file. -/
structure HeaderLine (line : Text) : Prop where
  unbroken : '\n' ∉ line
  noHunk : ¬ hunkStart <+: line

/-- How the lines of a header begin behind the first one, and the line of a binary file. -/
def headerStarts : List String :=
  ["new file mode ", "deleted file mode ", "old mode ", "new mode ", "index ", "--- ", "+++ ", "Binary files "]

theorem headerLine_append {start : String} (listed : start ∈ headerStarts) (unbroken : '\n' ∉ text) :
    HeaderLine (start.toList ++ text) := by
  have each : ∀ start ∈ headerStarts, '\n' ∉ start.toList ∧ ¬ hunkStart <+: start.toList ∧
      hunkStart.length ≤ start.toList.length := by
    decide
  obtain ⟨whole, other, long⟩ := each start listed
  constructor
  · rw [List.mem_append, not_or]
    exact ⟨whole, unbroken⟩
  · intro hunk
    exact other (List.prefix_of_prefix_length_le hunk (List.prefix_append _ _) long)

/-- The hashes of both states are hexadecimal. -/
structure Named (change : FileChange) : Prop where
  old : ∀ file ∈ change.old, file.hash.Hexadecimal
  new : ∀ file ∈ change.new, file.hash.Hexadecimal

theorem newline_notMem_shortOf {file : Option TreeFile} (hex : ∀ found ∈ file, found.hash.Hexadecimal) :
    '\n' ∉ shortOf file := by
  cases file with
  | none => decide
  | some file => exact ((hex file rfl).take shortLength).notMem (by decide)

theorem newline_notMem_digits (mode : FileMode) : '\n' ∉ mode.digits := by
  cases mode <;> decide

theorem indexText_eq (change : FileChange) : change.indexText =
    "index ".toList ++ (shortOf change.old ++ ("..".toList ++ shortOf change.new)) := by
  unfold indexText
  rw [List.append_assoc, List.append_assoc]

theorem newline_notMem_short (named : change.Named) :
    '\n' ∉ shortOf change.old ++ ("..".toList ++ shortOf change.new) := by
  have between : '\n' ∉ "..".toList := by decide
  simp only [List.mem_append, not_or]
  exact ⟨newline_notMem_shortOf named.old, between, newline_notMem_shortOf named.new⟩

theorem headerLine_indexText (named : change.Named) : HeaderLine change.indexText := by
  rw [indexText_eq]
  exact headerLine_append (by decide) (newline_notMem_short named)

theorem headerLine_of_mem_stateLines (named : change.Named) : ∀ line ∈ change.stateLines, HeaderLine line := by
  have index := headerLine_indexText named
  have withMode (mode : FileMode) : HeaderLine (change.indexText ++ ' ' :: mode.digits) := by
    rw [indexText_eq, List.append_assoc]
    refine headerLine_append (by decide) ?_
    rw [List.mem_append, List.mem_cons, not_or, not_or]
    exact ⟨newline_notMem_short named, by decide, newline_notMem_digits mode⟩
  have modeLine {start : String} (listed : start ∈ headerStarts) (mode : FileMode) :
      HeaderLine (start.toList ++ mode.digits) :=
    headerLine_append listed (newline_notMem_digits mode)
  unfold stateLines
  split
  · exact List.forall_mem_nil _
  · exact List.forall_mem_cons.mpr ⟨modeLine (by decide) _, List.forall_mem_singleton.mpr index⟩
  · exact List.forall_mem_cons.mpr ⟨modeLine (by decide) _, List.forall_mem_singleton.mpr index⟩
  · rename_i before after _ _
    have modes : ∀ line ∈ ["old mode ".toList ++ before.mode.digits, "new mode ".toList ++ after.mode.digits],
        HeaderLine line :=
      List.forall_mem_cons.mpr
        ⟨modeLine (by decide) _, List.forall_mem_singleton.mpr (modeLine (by decide) _)⟩
    split_ifs
    · exact List.forall_mem_singleton.mpr (withMode _)
    · exact List.forall_mem_append.mpr ⟨modes, List.forall_mem_singleton.mpr index⟩
    · exact List.forall_mem_append.mpr ⟨modes, List.forall_mem_nil _⟩

theorem newline_notMem_oldPath (change : FileChange) : '\n' ∉ change.oldPath := by
  unfold oldPath
  split_ifs
  · exact newline_notMem_shownPath _ _
  · decide

theorem newline_notMem_newPath (change : FileChange) : '\n' ∉ change.newPath := by
  unfold newPath
  split_ifs
  · exact newline_notMem_shownPath _ _
  · decide

theorem headerLine_of_mem_sideLines (change : FileChange) : ∀ line ∈ change.sideLines, HeaderLine line := by
  unfold sideLines
  split_ifs
  · exact List.forall_mem_cons.mpr ⟨headerLine_append (by decide) change.newline_notMem_oldPath,
      List.forall_mem_singleton.mpr (headerLine_append (by decide) change.newline_notMem_newPath)⟩
  · exact List.forall_mem_nil _

theorem fileHeader_printed {inHunk : Bool} (named : change.Named) (later : Printed false rest) :
    Printed inHunk (.fileHeader change.headerText :: rest) := by
  have others : ∀ line ∈ change.stateLines ++ change.sideLines, HeaderLine line :=
    List.forall_mem_append.mpr ⟨headerLine_of_mem_stateLines named, headerLine_of_mem_sideLines change⟩
  have first : '\n' ∉ "diff --git ".toList ++ shownPath 'a' change.path ++ ' ' :: shownPath 'b' change.path := by
    have start : '\n' ∉ "diff --git ".toList := by decide
    simp only [List.mem_append, List.mem_cons, not_or]
    exact ⟨⟨start, newline_notMem_shownPath _ _⟩, by decide, newline_notMem_shownPath _ _⟩
  have mark : fileStart <+:
      "diff --git ".toList ++ shownPath 'a' change.path ++ ' ' :: shownPath 'b' change.path := by
    rw [List.append_assoc]
    exact List.prefix_append _ _
  rw [headerText, List.append_assoc, List.singleton_append]
  exact .fileHeader mark (fun line member => (others line member).noHunk)
    (List.forall_mem_cons.mpr ⟨first, fun line member => (others line member).unbroken⟩) later

theorem binary_printed (change : FileChange) (later : Printed false rest) :
    Printed false (.binary change.binaryText :: rest) := by
  have between : '\n' ∉ " and ".toList := by decide
  have ending : '\n' ∉ " differ".toList := by decide
  have fed : " differ\n".toList = " differ".toList ++ ['\n'] := by decide
  have whole : change.binaryText = unlines ["Binary files ".toList ++
      (change.oldPath ++ (" and ".toList ++ (change.newPath ++ " differ".toList)))] := by
    have regroup (a b c d e f : Text) : a ++ b ++ c ++ d ++ (e ++ f) = a ++ (b ++ (c ++ (d ++ e))) ++ f := by
      simp
    unfold binaryText
    rw [fed, unlines_singleton]
    exact regroup _ _ _ _ _ _
  have plain : HeaderLine ("Binary files ".toList ++
      (change.oldPath ++ (" and ".toList ++ (change.newPath ++ " differ".toList)))) := by
    refine headerLine_append (by decide) ?_
    simp only [List.mem_append, not_or]
    exact ⟨change.newline_notMem_oldPath, between, change.newline_notMem_newPath, ending⟩
  rw [whole]
  exact .binary plain.noHunk plain.unbroken later

/-- What a hunk header repeats of a line has no line feed, as the end of the line is cut off. -/
theorem lineFeed_notMem_heading (content : LineContent line) (found : heading? line = some bytes) :
    lineFeed ∉ bytes := by
  have cut : lineFeed ∉ (line.reverse.dropWhile isSpaceByte).reverse := by
    cases line using List.reverseRecOn with
    | nil => exact List.not_mem_nil
    | append_singleton front last =>
        rw [LineContent, List.dropLast_concat] at content
        rw [List.reverse_append, List.reverse_singleton, List.singleton_append, List.dropWhile_cons,
          List.mem_reverse]
        split_ifs with space
        · intro inside
          exact content (List.mem_reverse.mp ((List.dropWhile_suffix _).subset inside))
        · rw [List.mem_cons, List.mem_reverse, not_or]
          refine ⟨?_, content⟩
          rintro rfl
          exact space (by decide)
  unfold heading? at found
  split at found
  · contradiction
  · rename_i first others same
    split_ifs at found
    rw [← Option.some.inj found]
    rw [same] at cut
    exact fun inside => cut (List.mem_of_mem_take inside)

end FileChange

theorem Utf8.wellShapedStart_subset (bytes : Bytes) : wellShapedStart bytes ⊆ bytes := by
  fun_induction wellShapedStart bytes with
  | case1 => exact List.Subset.refl _
  | case2 => exact List.nil_subset _
  | case3 =>
      rename_i lead rest more row _ ih
      rw [List.cons_append]
      refine List.cons_subset_cons lead (List.append_subset.mpr ⟨List.take_subset _ _, ?_⟩)
      exact List.Subset.trans ih (List.drop_subset _ _)

theorem Decimal.newline_notMem_digits (n : Nat) : '\n' ∉ digits n :=
  fun member => absurd (isDigit_of_mem member) (by decide)

namespace FileChange

theorem newline_notMem_placeText (before count : Nat) : '\n' ∉ placeText before count := by
  unfold placeText
  rw [List.mem_append, not_or]
  refine ⟨Decimal.newline_notMem_digits _, ?_⟩
  split_ifs
  · exact List.not_mem_nil
  · rw [List.mem_cons, not_or]
    exact ⟨by decide, Decimal.newline_notMem_digits _⟩

theorem hunkHeader_printed {inHunk : Bool} {lines : List Bytes} (hunk : Hunk)
    (content : ∀ line ∈ lines, LineContent line) (later : Printed true rest) :
    Printed inHunk (.hunkHeader (hunkHeaderText lines hunk) :: rest) := by
  have start : hunkStart <+: "@@ -".toList := by decide
  have opening : '\n' ∉ "@@ -".toList := by decide
  have between : '\n' ∉ " +".toList := by decide
  have closing : '\n' ∉ " @@".toList := by decide
  unfold hunkHeaderText
  rw [← unlines_singleton]
  refine .hunkHeader ?_ ?_ later
  · simp only [List.append_assoc]
    exact start.trans (List.prefix_append _ _)
  · simp only [List.mem_append, not_or]
    refine ⟨⟨⟨⟨⟨opening, newline_notMem_placeText _ _⟩, between⟩, newline_notMem_placeText _ _⟩, closing⟩, ?_⟩
    split
    · rename_i bytes found
      obtain ⟨line, member, isHeading⟩ := List.exists_of_findSome?_eq_some found
      have inside := List.mem_of_mem_take (List.mem_reverse.mp member)
      have unbroken := lineFeed_notMem_heading (content line inside) isHeading
      rw [List.mem_cons, not_or]
      exact ⟨by decide,
        Utf8.newline_notMem_decodeLenient fun feed => unbroken (Utf8.wellShapedStart_subset bytes feed)⟩
    · exact List.not_mem_nil

theorem edits_printed {edits : List LineEdit} (content : ∀ edit ∈ edits, LineContent edit.line)
    (later : Printed true rest) : Printed true (edits.flatMap editParts ++ rest) := by
  induction edits with
  | nil => exact later
  | cons edit edits ih =>
      rw [List.forall_mem_cons] at content
      have further := ih content.2
      have own := content.1
      rw [List.flatMap_cons, List.append_assoc, editParts]
      split_ifs with fed
      · obtain ⟨front, same⟩ := List.getLast?_eq_some_iff.mp fed
        rw [same, LineContent, List.dropLast_concat] at own
        rw [same, Utf8.decodeLenient_concat_lineFeed]
        exact .line (Utf8.newline_notMem_decodeLenient own) further
      · exact .lastLine (Utf8.newline_notMem_decodeLenient (own.notMem fed)) further

theorem hunks_opens {old : List Bytes} {hunks : List Hunk} (content : ∀ line ∈ old, LineContent line)
    (edited : ∀ hunk ∈ hunks, ∀ edit ∈ hunk.edits, LineContent edit.line)
    (later : ∀ inHunk, Printed inHunk rest) (inHunk : Bool) :
    Printed inHunk (hunks.flatMap (hunkParts old) ++ rest) := by
  -- The first hunk begins outside any hunk, and each further one inside the hunk before it.
  induction hunks generalizing inHunk with
  | nil => exact later inHunk
  | cons hunk hunks ih =>
      rw [List.forall_mem_cons] at edited
      rw [List.flatMap_cons, List.append_assoc, hunkParts, List.cons_append]
      exact hunkHeader_printed hunk content (edits_printed edited.1 (ih edited.2 true))

theorem lineContent_of_mem_linesOf (file : Option TreeFile) : ∀ line ∈ linesOf file, LineContent line := by
  cases file with
  | none => exact List.forall_mem_nil _
  | some file => exact lineContent_of_mem file.content

theorem content_printed (change : FileChange) (later : ∀ inHunk, Printed inHunk rest) :
    Printed false (change.contentParts ++ rest) := by
  unfold contentParts
  split_ifs
  · exact binary_printed change (later false)
  · exact later false
  · exact hunks_opens (lineContent_of_mem_linesOf change.old)
      (Hunk.forall_ofEdits (forall_lineEdits (lineContent_of_mem_linesOf change.old)
        (lineContent_of_mem_linesOf change.new))) later false

theorem parts_opens (named : change.Named) (later : ∀ inHunk, Printed inHunk rest) (inHunk : Bool) :
    Printed inHunk (change.parts ++ rest) :=
  fileHeader_printed named (content_printed change later)

end FileChange

theorem changes_opens {changes : List FileChange} (named : ∀ change ∈ changes, change.Named) (inHunk : Bool) :
    Printed inHunk (changes.flatMap FileChange.parts) := by
  induction changes generalizing inHunk with
  | nil => exact .done
  | cons change changes ih =>
      rw [List.forall_mem_cons] at named
      exact FileChange.parts_opens named.1 (ih named.2) inHunk

theorem named_of_mem_changesAt {path : Text} {old new : Option TreeFile}
    (first : ∀ file ∈ old, file.hash.Hexadecimal) (second : ∀ file ∈ new, file.hash.Hexadecimal) :
    ∀ change ∈ changesAt path old new, change.Named := by
  unfold changesAt
  split
  · exact List.forall_mem_nil _
  · split_ifs
    · exact List.forall_mem_nil _
    · exact List.forall_mem_cons.mpr ⟨⟨first, fun _ member => by contradiction⟩,
        List.forall_mem_singleton.mpr ⟨fun _ member => by contradiction, second⟩⟩
    · exact List.forall_mem_singleton.mpr ⟨first, second⟩
  · exact List.forall_mem_singleton.mpr ⟨first, second⟩

theorem patchParts_printed (first : ∀ file ∈ old, file.hash.Hexadecimal)
    (second : ∀ file ∈ new, file.hash.Hexadecimal) : Printed false (patchParts old new) := by
  refine changes_opens ?_ false
  rw [changesBetween, List.forall_mem_flatMap]
  intro path _
  exact named_of_mem_changesAt (fun file found => first file (List.mem_of_find?_eq_some found))
    (fun file found => second file (List.mem_of_find?_eq_some found))

namespace Repository

variable {repository : Repository} {base : DiffBase} {child : Text} {patch : Patch}

/-- All contents of files are named by hexadecimal hashes. -/
def NamesContents (repository : Repository) : Prop :=
  ∀ commit ∈ repository.commits, ∀ file ∈ commit.files, file.hash.Hexadecimal

theorem NamesContents.of_revision (named : repository.NamesContents) {text : Text} {commit : StoredCommit}
    (found : repository.revision text = .ok commit) : ∀ file ∈ commit.files, file.hash.Hexadecimal :=
  named commit (List.mem_of_find?_eq_some (revision_stored found))

theorem diffParts_printed (named : repository.NamesContents)
    (made : repository.diffParts base child = .ok parts) : Printed false parts := by
  unfold diffParts at made
  cases found : repository.revision child with
  | error error => simp [found] at made
  | ok commit =>
      cases based : repository.baseFiles base with
      | error error => simp [found, based] at made
      | ok files =>
          simp only [found, based, Except.ok.injEq] at made
          rw [← made]
          refine patchParts_printed ?_ (named.of_revision found)
          cases base with
          | emptyTree =>
              rw [← Except.ok.inj based]
              exact List.forall_mem_nil _
          | commit text =>
              cases first : repository.revision text with
              | error error => simp [baseFiles, first] at based
              | ok other =>
                  simp only [baseFiles, first, Except.ok.injEq] at based
                  rw [← based]
                  exact named.of_revision first

end Repository

theorem hexadecimal_hexByte (byte : UInt8) : Text.Hexadecimal (hexByte byte) := by
  have each : ∀ n < 16, isHexDigit (if n < 10 then Decimal.digit n else Char.ofNat (87 + n)) = true := by
    decide
  have bound : byte.toNat < 256 := byte.toNat_lt
  rw [hexByte, Text.Hexadecimal, List.forall_mem_map, List.forall_mem_cons, List.forall_mem_singleton]
  exact ⟨each _ (by omega), each _ (by omega)⟩

theorem hexadecimal_of_mem_readTree (bytes : Bytes) : ∀ entry ∈ readTree bytes, entry.hash.Hexadecimal := by
  fun_induction readTree bytes with
  | case1 => exact List.forall_mem_nil _
  | case2 =>
      rename_i ih
      refine List.forall_mem_cons.mpr ⟨?_, ih⟩
      exact List.forall_mem_flatMap.mpr fun byte _ => hexadecimal_hexByte byte

theorem ObjectTable.hexadecimal_of_mem_filesOf (table : ObjectTable) (depth : Nat) (above hash : Text) :
    ∀ file ∈ table.filesOf above depth hash, file.hash.Hexadecimal := by
  induction depth generalizing above hash with
  | zero => exact List.forall_mem_nil _
  | succ depth ih =>
      rw [filesOf, List.forall_mem_flatMap]
      intro entry member
      have hex := hexadecimal_of_mem_readTree _ entry member
      dsimp only
      split_ifs
      · exact List.forall_mem_singleton.mpr hex
      · split
        · exact List.forall_mem_singleton.mpr hex
        · exact ih _ _

/-- What is read from a listing of objects is named by hexadecimal hashes. -/
theorem Repository.namesContents_ofListings (objects : Bytes) (references head : Text) :
    (ofListings objects references head).NamesContents := by
  intro commit member
  obtain ⟨object, _, rfl⟩ := List.mem_map.mp member
  exact ObjectTable.hexadecimal_of_mem_filesOf _ _ _ _

namespace Repository

/-- What is read off the lines of a diff is what they were printed as, for contents of any form.
That holds for all parts that are printed in order, and such are those of a diff between any two
commits, as contents are named by hexadecimal hashes in whatever is read from a listing. -/
theorem diff_tells :
    (∀ parts, Printed false parts → (Patch.ofParts parts).Tells parts) ∧
      (∀ objects references head, (ofListings objects references head).NamesContents) ∧
      ∀ repository : Repository, repository.NamesContents → ∀ base child patch,
        repository.diff base child = .ok patch →
          ∃ parts, repository.diffParts base child = .ok parts ∧ Printed false parts ∧
            patch = Patch.ofParts parts ∧ patch.Tells parts := by
  refine ⟨fun parts printed => printed.tells, namesContents_ofListings, ?_⟩
  intro repository named base child patch made
  unfold diff at made
  cases found : repository.diffParts base child with
  | error error => simp [found, Except.map] at made
  | ok parts =>
      simp only [found, Except.map, Except.ok.injEq] at made
      have printed := diffParts_printed named found
      exact ⟨parts, rfl, printed, made.symm, made ▸ printed.tells⟩

/-- Two commits with one file, whose lines look like headers and hunks once they are printed. -/
def guise : Repository where
  commits := [guised 'a' "-- x\n@@ y\nlast", guised 'b' "++ x\ndiff --git z\nlast\n"]
  references := []
  head := none
where
  guised (name : Char) (content : String) : StoredCommit :=
    { plainCommit name [] with
      files := [{
        path := "f".toList, mode := .regular, content := Utf8.encode content.toList
        hash := List.replicate hashLength name }] }

theorem guise_namesContents : guise.NamesContents := by
  have hex {name : Char} (digit : isHexDigit name = true) {content : String} :
      ∀ file ∈ (guise.guised name content).files, file.hash.Hexadecimal := by
    refine List.forall_mem_singleton.mpr fun c member => ?_
    rwa [List.eq_of_mem_replicate member]
  exact List.forall_mem_cons.mpr ⟨hex (by decide), List.forall_mem_singleton.mpr (hex (by decide))⟩

theorem diff_tells_guise :
    guise.NamesContents ∧
      (guise.diff (.commit (List.replicate hashLength 'a')) (List.replicate hashLength 'b')).map
          (fun patch => (classifyLines patch.text).drop 5) = .ok [
            (.removed, "--- x".toList), (.removed, "-@@ y".toList), (.removed, "-last".toList),
            (.context, missingFeedNote), (.added, "+++ x".toList), (.added, "+diff --git z".toList),
            (.added, "+last".toList)] ∧
      ∃ patch parts,
        guise.diff (.commit (List.replicate hashLength 'a')) (List.replicate hashLength 'b') = .ok patch ∧
        Printed false parts ∧ patch.Tells parts := by
  have lines : (guise.diff (.commit (List.replicate hashLength 'a')) (List.replicate hashLength 'b')).map
      (fun patch => (classifyLines patch.text).drop 5) = .ok [
        (.removed, "--- x".toList), (.removed, "-@@ y".toList), (.removed, "-last".toList),
        (.context, missingFeedNote), (.added, "+++ x".toList), (.added, "+diff --git z".toList),
        (.added, "+last".toList)] := by
    decide +kernel
  refine ⟨guise_namesContents, lines, ?_⟩
  cases made : guise.diff (.commit (List.replicate hashLength 'a')) (List.replicate hashLength 'b') with
  | error error =>
      rw [made] at lines
      contradiction
  | ok patch =>
      obtain ⟨parts, _, printed, _, tells⟩ := diff_tells.2.2 guise guise_namesContents _ _ patch made
      exact ⟨patch, parts, rfl, printed, tells⟩

end Repository

end CuratedHistory
