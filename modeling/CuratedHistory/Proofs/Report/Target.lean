import Mathlib.Data.List.Basic
import CuratedHistory.Proofs.Files.Path
import CuratedHistory.Report.Target

namespace CuratedHistory.OutputTarget

/-! Which targets stay as they are when their path is read as a target again. The checks
are made on the path as it is given, and one without an extension becomes another path:
it can be that of a directory, or have no name for the extension to stand after. -/

variable {files : FileSystem} {path parent extension : Text} {target : OutputTarget} {format : OutputFormat}

/-- The directory that the path lies in, if it names one, exists. -/
def Housed (files : FileSystem) (path : Text) : Prop :=
  ∀ parent, Path.parent? path = some parent → parent = [] ∨ files.isDirectory parent = true

/-- The extension says that this is the format. -/
def Announces (extension : Text) (format : OutputFormat) : Prop :=
  (format = .pdf ∧ Text.lower extension = "pdf".toList) ∨
    (format = .html ∧ (Text.lower extension = "html".toList ∨ Text.lower extension = "htm".toList))

/-- A target that can be written as what it is: no directory, in a directory that exists,
and with an extension for its format. -/
structure Sound (files : FileSystem) (target : OutputTarget) : Prop where
  free : files.isDirectory target.path = false
  housed : Housed files target.path
  announced : ∃ extension, Path.extension? target.path = some extension ∧ Announces extension target.format

theorem formatOf?_eq_some_iff : formatOf? (Text.lower extension) = some format ↔ Announces extension format := by
  unfold formatOf? Announces
  split_ifs with isPdf isHtml
  · cases format with
    | pdf => exact ⟨fun _ => .inl ⟨rfl, isPdf⟩, fun _ => rfl⟩
    | html =>
        rw [isPdf]
        exact ⟨fun other => by contradiction, fun both => absurd both (by decide)⟩
  · cases format with
    | pdf =>
        refine ⟨fun other => by contradiction, ?_⟩
        rintro (⟨_, same⟩ | ⟨other, _⟩) <;> contradiction
    | html => exact ⟨fun _ => .inr ⟨rfl, isHtml⟩, fun _ => rfl⟩
  · refine ⟨fun other => by contradiction, ?_⟩
    rintro (⟨_, same⟩ | ⟨_, same⟩) <;> contradiction

theorem housed_iff :
    ((Path.parent? path).filter fun parent => parent ≠ [] ∧ !files.isDirectory parent) = none ↔
      Housed files path := by
  rw [Option.filter_eq_none_iff, Housed]
  refine forall_congr' fun parent => forall_congr' fun _ => ?_
  by_cases nothing : parent = [] <;> simp [nothing]

/-- Which paths mean a target, and which one. -/
theorem ofPath_eq_ok_iff :
    ofPath files path = .ok target ↔
      files.isDirectory path = false ∧ Housed files path ∧
        ((Path.extension? path = none ∧ target = { path := path ++ ".pdf".toList, format := .pdf }) ∨
          ∃ extension, Path.extension? path = some extension ∧ Announces extension target.format ∧
            target.path = path) := by
  rw [← housed_iff]
  unfold ofPath
  cases files.isDirectory path with
  | true => simp
  | false =>
      cases (Path.parent? path).filter fun parent => parent ≠ [] ∧ !files.isDirectory parent with
      | some parent => simp
      | none =>
          cases written : Path.extension? path with
          | none => simp [eq_comm]
          | some extension =>
              cases known : formatOf? (Text.lower extension) with
              | none =>
                  have unknown : ¬ Announces extension target.format := by
                    rw [← formatOf?_eq_some_iff, known]
                    simp
                  simp [known, unknown]
              | some format =>
                  have announced : Announces extension target.format ↔ format = target.format := by
                    rw [← formatOf?_eq_some_iff, known, Option.some.injEq]
                  obtain ⟨place, kind⟩ := target
                  simp only [Bool.false_eq_true, if_false, known, announced, Except.ok.injEq, mk.injEq,
                    true_and, reduceCtorEq, false_and, false_or, Option.some.injEq, exists_eq_left']
                  exact ⟨fun same => ⟨same.2, same.1.symm⟩, fun same => ⟨same.2.symm, same.1⟩⟩

theorem sound_iff : ofPath files target.path = .ok target ↔ Sound files target := by
  rw [ofPath_eq_ok_iff]
  constructor
  · rintro ⟨free, housed, bare | ⟨extension, written, announced, _⟩⟩
    · have longer := congrArg (fun target => target.path.length) bare.2
      simp at longer
    · exact ⟨free, housed, extension, written, announced⟩
  · rintro ⟨free, housed, extension, written, announced⟩
    exact ⟨free, housed, .inr ⟨extension, written, announced, rfl⟩⟩

theorem pdf_isExtension : Path.IsExtension "pdf".toList :=
  ⟨by decide, by decide, by decide⟩

theorem announces_pdf : Announces "pdf".toList .pdf :=
  .inl ⟨rfl, by decide⟩

/-- What an added extension comes to. Without a name before it there is none after it
either; with one, the only question is what the new path leads to. -/
theorem sound_append_iff :
    Sound files { path := path ++ ".pdf".toList, format := .pdf } ↔
      Path.lastPiece path ≠ [] ∧ files.isDirectory (path ++ ".pdf".toList) = false ∧
        Housed files (path ++ ".pdf".toList) := by
  have dotted : ".pdf".toList = '.' :: "pdf".toList := by decide
  have written := pdf_isExtension.extension?_append path
  rw [← dotted] at written
  constructor
  · rintro ⟨free, housed, extension, found, _⟩
    refine ⟨?_, free, housed⟩
    intro nothing
    rw [if_pos nothing] at written
    rw [written] at found
    contradiction
  · rintro ⟨something, free, housed⟩
    rw [if_neg something] at written
    exact ⟨free, housed, _, written, announces_pdf⟩

/-- An added extension leaves a name in the directory that it is in. -/
theorem housed_append (something : Path.lastPiece path ≠ []) (noDot : Path.lastPiece path ≠ ['.']) :
    Housed files (path ++ ".pdf".toList) ↔ Housed files path := by
  rw [Housed, Housed, Path.parent?_append (by decide) (by decide) something noDot]

/-- A target that a path means is sound exactly if its own path means it again. One that
has its extension from the start always is. One whose extension is added is not if there
was no name to add it to, and else is unless the new path is that of a directory, or, after
a single dot, lies in no directory. -/
theorem ofPath_again (accepted : ofPath files path = .ok target) :
    (ofPath files target.path = .ok target ↔ Sound files target) ∧
      (∀ extension, Path.extension? path = some extension → target.path = path ∧ Sound files target) ∧
      (Path.extension? path = none →
        target = { path := path ++ ".pdf".toList, format := .pdf } ∧
        (Path.lastPiece path = [] → ¬ Sound files target) ∧
        (Path.lastPiece path = ['.'] →
          (Sound files target ↔ files.isDirectory target.path = false ∧ Housed files target.path)) ∧
        (Path.lastPiece path ≠ [] → Path.lastPiece path ≠ ['.'] →
          (Sound files target ↔ files.isDirectory target.path = false))) := by
  obtain ⟨free, housed, how⟩ := ofPath_eq_ok_iff.mp accepted
  refine ⟨sound_iff, ?_, ?_⟩
  · intro extension written
    rcases how with bare | ⟨other, found, announced, same⟩
    · rw [bare.1] at written
      contradiction
    · refine ⟨same, ?_⟩
      rw [← same] at free housed found
      exact ⟨free, housed, other, found, announced⟩
  · intro bare
    rcases how with ⟨_, rfl⟩ | ⟨other, found, _⟩
    · refine ⟨rfl, ?_, ?_, ?_⟩
      · intro nothing sound
        exact (sound_append_iff.mp sound).1 nothing
      · intro dot
        have something : Path.lastPiece path ≠ [] := by
          rw [dot]
          exact List.cons_ne_nil _ _
        exact ⟨fun sound => (sound_append_iff.mp sound).2, fun both => sound_append_iff.mpr ⟨something, both⟩⟩
      · intro something noDot
        constructor
        · exact Sound.free
        · exact fun newFree =>
            sound_append_iff.mpr ⟨something, newFree, (housed_append something noDot).mpr housed⟩
    · rw [bare] at found
      contradiction

/-- A directory that has the name of the target but not that of the path. -/
def filesWithDirectory : FileSystem where
  workingDirectory := ["work".toList]
  nodes := [(["work".toList], .directory), (["work".toList, "report.pdf".toList], .directory)]

/-- A path is accepted whose target is refused, since it is the path of a directory. -/
theorem exists_directory_target :
    ofPath filesWithDirectory "report".toList = .ok { path := "report.pdf".toList, format := .pdf } ∧
      filesWithDirectory.isDirectory "report.pdf".toList = true ∧
      ofPath filesWithDirectory "report.pdf".toList = .error (.isDirectory "report.pdf".toList) := by
  decide +kernel

theorem ofPath_again_directory :
    ofPath filesWithDirectory "other".toList = .ok { path := "other.pdf".toList, format := .pdf } ∧
      ofPath filesWithDirectory "other.pdf".toList = .ok { path := "other.pdf".toList, format := .pdf } ∧
      Sound filesWithDirectory { path := "other.pdf".toList, format := .pdf } := by
  have accepted : ofPath filesWithDirectory "other".toList =
      .ok { path := "other.pdf".toList, format := .pdf } := by
    decide +kernel
  obtain ⟨again, _, added⟩ := ofPath_again accepted
  obtain ⟨_, _, _, named⟩ := added (by decide +kernel)
  have sound := (named (by decide +kernel) (by decide +kernel)).mpr (by decide +kernel)
  exact ⟨accepted, again.mpr sound, sound⟩

end CuratedHistory.OutputTarget
