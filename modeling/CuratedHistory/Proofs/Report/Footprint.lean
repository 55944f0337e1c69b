import CuratedHistory.Proofs.Files.Touching
import CuratedHistory.Proofs.Report.Written

namespace CuratedHistory

/-! What writing a report can change: the target, and with a notice in it the file beside the
target. The scratch file is gone in the end. -/

variable {machine : Machine} {files after : FileSystem} {target : OutputTarget} {command path : Text}

/-- Programs change nothing but the two files that they are handed at the end of their arguments. -/
def Machine.Discreet (machine : Machine) : Prop :=
  ∀ program name own source output input files outcome,
    machine.programs program name (own ++ [source, output]) input files = .ok outcome →
      files.Touches [source, output] outcome.files

/-- Nothing stands where the scratch file will. -/
def Machine.Fresh (machine : Machine) (files : FileSystem) : Prop :=
  ∀ location, files.locate machine.scratchPath = .ok location → files.node? location = none

theorem Machine.Fresh.of_locate {location : Location} (located : files.locate machine.scratchPath = .ok location)
    (free : files.node? location = none) : machine.Fresh files := by
  intro other leads
  rw [located, Except.ok.injEq] at leads
  rwa [← leads]

/-- The paths at which a report was written, the one where a PDF was tried included. -/
def Written.footprint (written : Written) (target : OutputTarget) : List Text :=
  match written.degraded with
  | none => [target.path]
  | some _ => [target.path, target.htmlFallback]

namespace Report

variable {report : Report} {written : Written} {converter : Converter} {program : Text}

/-- The scratch file comes and goes, so that only the target is left to be changed. -/
theorem touches_convert (discreet : machine.Discreet) (fresh : machine.Fresh files) :
    files.Touches [path] (report.convert machine files converter program path).2 := by
  unfold convert
  split
  · exact .refl _ _
  · rename_i scratched written
    split
    · exact .refl _ _
    · rename_i outcome ended
      obtain ⟨location, located⟩ := FileSystem.exists_locate_of_write written
      have free := fresh location located
      have notRoot : location ≠ [] := FileSystem.location_ne_nil (by rw [free]; simp)
      have run := (FileSystem.Touches.of_write written).trans (discreet _ _ _ _ _ _ _ _ ended)
      have gone : withoutScratch outcome.files machine.scratchPath = outcome.files.remove location := by
        simp only [withoutScratch, run.locate located]
      have whole : files.Touches [path] (outcome.files.remove location) := by
        constructor
        · exact run.workingDirectory
        · intro other away
          rw [FileSystem.node?_remove notRoot]
          split_ifs with here
          · rw [here, free]
          · refine run.elsewhere other ?_
            have scratch : other ≠ files.place machine.scratchPath := by
              rwa [← FileSystem.eq_place_of_locate located]
            simpa using ⟨scratch, away path (List.mem_singleton_self path)⟩
        · intro other stands
          rw [FileSystem.node?_remove notRoot, if_neg]
          · exact run.directories other stands
          · rintro rfl
            rw [free] at stands
            contradiction
      rw [gone]
      split_ifs <;> exact whole

theorem touches_writePdf (discreet : machine.Discreet) (fresh : machine.Fresh files) :
    files.Touches [path] (report.writePdf machine files command path).2 := by
  unfold writePdf
  split
  · exact .refl _ _
  · split
    · exact .refl _ _
    · exact touches_convert discreet fresh

theorem touches_of_writePdf {result : Except PdfFailure Unit} (discreet : machine.Discreet)
    (fresh : machine.Fresh files)
    (attempted : report.writePdf machine files command path = (result, after)) : files.Touches [path] after := by
  have whole : files.Touches [path] (report.writePdf machine files command path).2 :=
    touches_writePdf discreet fresh
  rwa [attempted] at whole

/-- The report as it is written, with the notice if it is not what was asked for. -/
def noticed (report : Report) (written : Written) : Report :=
  match written.degraded with
  | none => report
  | some notice => report.addNotice notice

/-- A report that was written: only its own places can have changed, and at the path that is
given there was written HTML, or a converter has come off and left a file. -/
structure Leaves (report : Report) (machine : Machine) (files : FileSystem) (target : OutputTarget)
    (command : Text) (written : Written) (after : FileSystem) : Prop where
  path : written.path = if written.degraded = none then target.path else target.htmlFallback
  touches : files.Touches (written.footprint target) after
  html : written.format = .html →
    ∃ before : FileSystem, before.write written.path (Utf8.encode (report.noticed written).html) = .ok after
  pdf : written.format = .pdf → ∃ converter scratched outcome,
    report.Converts machine files command written.path converter scratched outcome ∧
      outcome.ending.isSuccess = true ∧ outcome.files.isFile written.path = true ∧
      after = withoutScratch outcome.files machine.scratchPath

theorem write_leaves (discreet : machine.Discreet) (fresh : machine.Fresh files)
    (answer : report.write machine files target command = (.ok written, after)) :
    report.Leaves machine files target command written after := by
  have answers := report.write_answers machine files target command
  rw [answer] at answers
  cases answers with
  | page _ wrote => exact ⟨rfl, .of_write wrote, fun _ => ⟨files, wrote⟩, fun other => by contradiction⟩
  | pdf _ made =>
      refine ⟨rfl, touches_of_writePdf discreet fresh made, fun other => by contradiction, fun _ => ?_⟩
      obtain ⟨converter, scratched, outcome, converts⟩ := exists_converts made
      have judgement := converts.writePdf_eq
      rw [made, Prod.mk.injEq] at judgement
      obtain ⟨succeeded, present⟩ := judged_eq_ok_iff.mp judgement.1.symm
      exact ⟨converter, scratched, outcome, converts, succeeded, present, judgement.2⟩
  | instead _ failed wrote =>
      exact ⟨rfl, (touches_of_writePdf discreet fresh failed).trans (.of_write wrote), fun _ => ⟨_, wrote⟩,
        fun other => by contradiction⟩

end Report

end CuratedHistory
