import CuratedHistory.Proofs.Files.Extension
import CuratedHistory.Proofs.Report.Target

namespace CuratedHistory.OutputTarget

/-! Where the HTML goes that takes the place of a PDF: beside it, under the same stem, as long as
the name of the PDF has a stem that is more than a dot. -/

variable {files : FileSystem} {path front extension : Text} {target : OutputTarget}

/-- The HTML lies beside the PDF, under its name with the other extension. -/
structure HasSibling (target : OutputTarget) : Prop where
  parent : Path.parent? target.htmlFallback = Path.parent? target.path
  extension : Path.extension? target.htmlFallback = some "html".toList
  differs : target.htmlFallback ≠ target.path
  name : ∃ stem extension, Text.lower extension = "pdf".toList ∧
    Path.fileName? target.path = some (stem ++ '.' :: extension) ∧
    Path.fileName? target.htmlFallback = some (stem ++ ".html".toList)

/-- The path ends in a name with nothing but a dot before its extension. -/
def OnlyDot (path : Text) : Prop :=
  ∃ front extension, Path.IsDirectory front ∧ Text.lower extension = "pdf".toList ∧
    path = front ++ '.' :: '.' :: extension

/-- The path ends in an extension that no name stands before. -/
def Nameless (path : Text) : Prop :=
  ∃ front, Path.IsDirectory front ∧ path = front ++ ".pdf".toList

theorem html_isExtension : Path.IsExtension "html".toList :=
  ⟨by decide, by decide, by decide⟩

theorem isExtension_of_lower (isPdf : Text.lower extension = "pdf".toList) : Path.IsExtension extension := by
  have kept {c : Char} (member : c ∈ extension) : c.toLower ∈ "pdf".toList := by
    rw [← isPdf]
    exact List.mem_map_of_mem member
  refine ⟨?_, fun dot => ?_, fun slash => ?_⟩
  · rintro rfl
    contradiction
  · exact absurd (kept dot) (by decide)
  · exact absurd (kept slash) (by decide)

theorem htmlFallback_of_pdf (isPdf : target.format = .pdf) :
    target.htmlFallback = Path.withExtension "html".toList target.path := by
  simp only [htmlFallback, isPdf]

/-- The path of a PDF has a name with an extension, or no name before it. -/
theorem pieces_or_nameless (accepted : ofPath files path = .ok target) (isPdf : target.format = .pdf) :
    (∃ front stem extension behind, Path.Pieces target.path front stem extension behind ∧
      Text.lower extension = "pdf".toList) ∨ Nameless target.path := by
  obtain ⟨_, _, ⟨bare, rfl⟩ | ⟨extension, written, announced, same⟩⟩ := ofPath_eq_ok_iff.mp accepted
  · by_cases nothing : Path.lastPiece path = []
    · exact .inr ⟨path, Path.isDirectory_iff.mpr nothing, rfl⟩
    · have written := pdf_isExtension.extension?_append path
      rw [if_neg nothing] at written
      obtain ⟨front, stem, behind, pieces⟩ := Path.exists_pieces written (by decide)
      exact .inl ⟨front, stem, _, behind, pieces, by decide⟩
  · rw [isPdf] at announced
    obtain ⟨_, lower⟩ | ⟨other, _⟩ := announced
    · rw [← same] at written
      obtain ⟨front, stem, behind, pieces⟩ :=
        Path.exists_pieces written (isExtension_of_lower lower).something
      exact .inl ⟨front, stem, extension, behind, pieces, lower⟩
    · contradiction

/-- What is written beside a PDF, in the three cases of its path. -/
theorem htmlFallback_of_pieces {stem behind : Text} (isPdf : target.format = .pdf)
    (pieces : Path.Pieces target.path front stem extension behind) :
    target.htmlFallback =
      if stem = ['.'] ∧ behind = [] then front ++ ['.', '.'] else front ++ (stem ++ ".html".toList) := by
  rw [htmlFallback_of_pdf isPdf, pieces.withExtension_eq]
  rfl

theorem htmlFallback_of_onlyDot (isPdf : target.format = .pdf) (isDirectory : Path.IsDirectory front)
    (lower : Text.lower extension = "pdf".toList) (ends : target.path = front ++ '.' :: '.' :: extension) :
    target.htmlFallback = front ++ ['.', '.'] := by
  have pieces := Path.Pieces.of_append isDirectory (List.cons_ne_nil '.' []) (by decide)
    (isExtension_of_lower lower)
  rw [List.singleton_append, ← ends] at pieces
  rw [htmlFallback_of_pieces isPdf pieces, if_pos ⟨rfl, rfl⟩]

theorem htmlFallback_of_nameless (isPdf : target.format = .pdf) (isDirectory : Path.IsDirectory front)
    (ends : target.path = front ++ ".pdf".toList) :
    target.htmlFallback = front ++ ".pdf.html".toList := by
  have dotted : ".pdf".toList = '.' :: "pdf".toList := by decide
  rw [htmlFallback_of_pdf isPdf, ends, dotted, Path.withExtension_hidden isDirectory pdf_isExtension]
  rfl

theorem fileName?_dots (isDirectory : Path.IsDirectory front) : Path.fileName? (front ++ ['.', '.']) = none := by
  have split := isDirectory.splitReversed_append (by decide : '/' ∉ ['.', '.']) (by decide)
  have name := @Path.fileName?_of_split (front ++ ['.', '.']) front ['.'] [] split (by decide)
  exact name.trans (if_pos ⟨rfl, rfl⟩)

theorem hasSibling_of_pieces {stem behind : Text} (isPdf : target.format = .pdf)
    (pieces : Path.Pieces target.path front stem extension behind)
    (lower : Text.lower extension = "pdf".toList) (notDots : ¬ (stem = ['.'] ∧ behind = [])) :
    HasSibling target := by
  have fallback := htmlFallback_of_pieces isPdf pieces
  have dotted : ".html".toList = '.' :: "html".toList := by decide
  have stemOf : Path.lastPiece (front ++ stem) = stem := by
    rw [Path.lastPiece_append pieces.noSlash, Path.isDirectory_iff.mp pieces.directory, List.nil_append]
  have written := html_isExtension.extension?_append (front ++ stem)
  have name := html_isExtension.fileName?_append (front ++ stem)
  rw [stemOf, List.append_assoc, ← dotted] at written name
  rw [if_neg notDots] at fallback
  rw [if_neg pieces.stemmed, ← fallback] at written
  rw [← fallback] at name
  refine ⟨?_, written, ?_, stem, extension, lower, pieces.fileName?_eq, name⟩
  · rw [fallback]
    refine pieces.parent?_append ?_ ?_
    · simp [pieces.noSlash]
    · rw [dotted]
      exact Path.two_le_length pieces.stemmed _
  · intro same
    rw [same, pieces.extension?_eq, Option.some.injEq] at written
    rw [written] at lower
    exact absurd lower (by decide)

/-- What is written beside an extension that no name stands before has it for a stem. -/
theorem nameless_names (isPdf : target.format = .pdf) (isDirectory : Path.IsDirectory front)
    (ends : target.path = front ++ ".pdf".toList) :
    Path.fileName? target.path = some ".pdf".toList ∧
      Path.fileName? target.htmlFallback = some ".pdf.html".toList ∧
      Path.extension? target.htmlFallback = some "html".toList ∧
      Path.parent? target.htmlFallback = Path.parent? target.path := by
  have noStem := Path.isDirectory_iff.mp isDirectory
  have stem : Path.lastPiece (front ++ ".pdf".toList) = ".pdf".toList := by
    rw [Path.lastPiece_append (by decide), noStem, List.nil_append]
  have written := html_isExtension.extension?_append (front ++ ".pdf".toList)
  have name := html_isExtension.fileName?_append (front ++ ".pdf".toList)
  have spelled : front ++ ".pdf.html".toList = front ++ ".pdf".toList ++ '.' :: "html".toList := by
    rw [List.append_assoc]
    rfl
  have own := pdf_isExtension.fileName?_append front
  rw [noStem] at own
  rw [stem, ← spelled] at written name
  rw [htmlFallback_of_nameless isPdf isDirectory ends, ends]
  refine ⟨own, name, written, ?_⟩
  rw [Path.parent?_of_split (isDirectory.splitReversed_append (by decide) (by decide)) (by decide),
    Path.parent?_of_split (isDirectory.splitReversed_append (by decide) (by decide)) (by decide)]

/-- The HTML lies beside the PDF, under the same stem, unless the name of the PDF is a dot with the
extension or the extension alone. -/
theorem hasSibling_iff (accepted : ofPath files path = .ok target) (isPdf : target.format = .pdf) :
    HasSibling target ↔ ¬ OnlyDot target.path ∧ ¬ Nameless target.path := by
  constructor
  · intro sibling
    constructor
    · rintro ⟨front, extension, isDirectory, lower, ends⟩
      have written := sibling.extension
      rw [htmlFallback_of_onlyDot isPdf isDirectory lower ends, Path.extension?,
        fileName?_dots isDirectory] at written
      contradiction
    · rintro ⟨front, isDirectory, ends⟩
      obtain ⟨stem, extension, lower, name, other⟩ := sibling.name
      obtain ⟨own, ownOther, _⟩ := nameless_names isPdf isDirectory ends
      rw [own, Option.some.injEq] at name
      rw [ownOther, Option.some.injEq] at other
      -- The stem would have to be empty for the PDF, and not empty for the HTML.
      have three : extension.length = 3 := by
        have length := congrArg List.length lower
        rwa [Text.lower, List.length_map] at length
      have short : 4 = stem.length + 4 := by simpa [three] using congrArg List.length name
      have nothing : stem = [] := List.eq_nil_of_length_eq_zero (by omega)
      rw [nothing] at other
      exact absurd other (by decide)
  · rintro ⟨notDot, named⟩
    obtain ⟨front, stem, extension, behind, pieces, lower⟩ | nameless := pieces_or_nameless accepted isPdf
    · refine hasSibling_of_pieces isPdf pieces lower ?_
      rintro ⟨rfl, rfl⟩
      refine notDot ⟨front, extension, pieces.directory, lower, ?_⟩
      rw [pieces.whole]
      simp
    · exact absurd nameless named

/-- The HTML in place of a PDF never takes its place in the files. -/
theorem place_htmlFallback_ne (accepted : ofPath files path = .ok target) (isPdf : target.format = .pdf)
    (others : FileSystem) : others.place target.htmlFallback ≠ others.place target.path := by
  obtain ⟨front, stem, extension, behind, pieces, lower⟩ | ⟨front, isDirectory, ends⟩ :=
    pieces_or_nameless accepted isPdf
  · rw [FileSystem.place_of_pieces pieces, htmlFallback_of_pieces isPdf pieces]
    split_ifs with dots
    · intro same
      have length := congrArg List.length same
      rw [FileSystem.place_append pieces.directory (by decide) (by decide), FileSystem.advance_parent,
        List.length_dropLast, List.length_append, List.length_singleton] at length
      omega
    · have noSlash : '/' ∉ stem ++ ".html".toList := by simp [pieces.noSlash]
      have notDots : stem ++ ".html".toList ≠ ['.', '.'] := fun dots =>
        absurd ((Path.eq_dots_iff pieces.stemmed).mp dots).2 (by decide)
      intro same
      rw [FileSystem.place_append_name pieces.directory noSlash
        (Path.two_le_length pieces.stemmed "html".toList) notDots, List.append_cancel_left_eq,
        List.singleton_inj, List.append_cancel_left_eq] at same
      rw [← (List.cons.inj same).2] at lower
      exact absurd lower (by decide)
  · rw [htmlFallback_of_nameless isPdf isDirectory ends, ends,
      FileSystem.place_append_name isDirectory (by decide) (by decide) (by decide),
      FileSystem.place_append_name isDirectory (by decide) (by decide) (by decide)]
    intro same
    rw [List.append_cancel_left_eq] at same
    exact absurd same (by decide)

/-- Where the HTML goes. An HTML target stays where it is. The HTML in place of a PDF lies in the
same directory, under the same stem with its own extension, for all paths that are accepted but
two kinds. A name of nothing but a dot and the extension leaves two dots, which are no name of a
file. An extension with no name before it, which only an added one can be, is kept as a stem. -/
theorem htmlFallback_exact (accepted : ofPath files path = .ok target) :
    (target.format = .html → target.htmlFallback = target.path) ∧
      (target.format = .pdf →
        (HasSibling target ↔ ¬ OnlyDot target.path ∧ ¬ Nameless target.path) ∧
        (∀ front extension, Path.IsDirectory front → Text.lower extension = "pdf".toList →
          target.path = front ++ '.' :: '.' :: extension →
          target.htmlFallback = front ++ ['.', '.'] ∧ Path.fileName? target.htmlFallback = none) ∧
        (∀ front, Path.IsDirectory front → target.path = front ++ ".pdf".toList →
          path = front ∧ target.htmlFallback = target.path ++ ".html".toList ∧
            Path.parent? target.htmlFallback = Path.parent? target.path ∧
            Path.extension? target.htmlFallback = some "html".toList ∧
            Path.fileName? target.htmlFallback = some ".pdf.html".toList)) := by
  refine ⟨fun isHtml => by simp only [htmlFallback, isHtml], fun isPdf => ⟨hasSibling_iff accepted isPdf, ?_, ?_⟩⟩
  · intro front extension isDirectory lower ends
    rw [htmlFallback_of_onlyDot isPdf isDirectory lower ends]
    exact ⟨rfl, fileName?_dots isDirectory⟩
  · intro front isDirectory ends
    obtain ⟨own, name, written, parent⟩ := nameless_names isPdf isDirectory ends
    refine ⟨?_, ?_, parent, written, name⟩
    · obtain ⟨_, _, ⟨_, rfl⟩ | ⟨extension, found, _, same⟩⟩ := ofPath_eq_ok_iff.mp accepted
      · exact List.append_cancel_right ends
      · have none := pdf_isExtension.extension?_append front
        rw [if_pos (Path.isDirectory_iff.mp isDirectory)] at none
        rw [← same, ends] at found
        exact absurd (none.symm.trans found) (by simp)
    · rw [htmlFallback_of_nameless isPdf isDirectory ends, ends, List.append_assoc]
      rfl

def pdfAt (path : String) : OutputTarget :=
  { path := path.toList, format := .pdf }

/-- A working directory with a directory for reports in it. -/
def filesWithReports : FileSystem where
  workingDirectory := ["work".toList]
  nodes := [(["work".toList], .directory), (["work".toList, "reports".toList], .directory)]

/-- Paths are accepted whose PDF has no HTML beside it: one gives the directory above instead, the
other keeps the extension that is to be replaced. -/
theorem exists_fallback_without_sibling :
    (ofPath filesWithReports "..pdf".toList = .ok (pdfAt "..pdf") ∧
        htmlFallback (pdfAt "..pdf") = "..".toList ∧
        filesWithReports.isDirectory "..".toList = true ∧
        ¬ HasSibling (pdfAt "..pdf")) ∧
      ofPath filesWithReports "missing/".toList = .ok (pdfAt "missing/.pdf") ∧
        htmlFallback (pdfAt "missing/.pdf") = "missing/.pdf.html".toList ∧
        ¬ HasSibling (pdfAt "missing/.pdf") := by
  have dots : ofPath filesWithReports "..pdf".toList = .ok (pdfAt "..pdf") := by
    decide +kernel
  have hidden : ofPath filesWithReports "missing/".toList =
      .ok (pdfAt "missing/.pdf") := by
    decide +kernel
  refine ⟨⟨dots, by decide +kernel, by decide +kernel, fun sibling => ?_⟩, hidden, by decide +kernel,
    fun sibling => ?_⟩
  · exact ((hasSibling_iff dots rfl).mp sibling).1 ⟨[], "pdf".toList, .inl rfl, by decide, by decide⟩
  · exact ((hasSibling_iff hidden rfl).mp sibling).2
      ⟨"missing/".toList, .inr ⟨"missing".toList, by decide⟩, by decide⟩

/-- A second dot and a separator at the end do not keep the HTML from its place. -/
theorem htmlFallback_exact_reports :
    ofPath filesWithReports "reports/v1.0.PDF//".toList =
        .ok (pdfAt "reports/v1.0.PDF//") ∧
      HasSibling (pdfAt "reports/v1.0.PDF//") ∧
      htmlFallback (pdfAt "reports/v1.0.PDF//") = "reports/v1.0.html".toList := by
  have accepted : ofPath filesWithReports "reports/v1.0.PDF//".toList =
      .ok (pdfAt "reports/v1.0.PDF//") := by
    decide +kernel
  obtain ⟨same, _, _⟩ := (htmlFallback_exact accepted).2 rfl
  -- Both exceptions end in an extension, and this path does not.
  have ends {front extension : Text} (isExtension : Path.IsExtension extension) :
      "reports/v1.0.PDF//".toList ≠ front ++ extension := by
    intro whole
    have last : (front ++ extension).getLast? = some '/' := by
      rw [← whole]
      decide
    rw [List.getLast?_append_of_ne_nil _ isExtension.something] at last
    exact isExtension.noSlash (List.mem_of_getLast? last)
  refine ⟨accepted, same.mpr ⟨?_, ?_⟩, by decide +kernel⟩
  · rintro ⟨front, extension, _, lower, whole⟩
    have spelled : front ++ '.' :: '.' :: extension = (front ++ ['.', '.']) ++ extension := by simp
    exact ends (isExtension_of_lower lower) (whole.trans spelled)
  · rintro ⟨front, _, whole⟩
    have spelled : front ++ ".pdf".toList = (front ++ ['.']) ++ "pdf".toList := by
      rw [List.append_assoc]
      rfl
    exact ends pdf_isExtension (whole.trans spelled)

end CuratedHistory.OutputTarget
