import CuratedHistory.Proofs.CommandLine.Ending

namespace CuratedHistory

/-! What a run can change among the files: nothing before its plan is accepted, nothing at all if
it only checks or shows a plan, and else the places of its report. -/

variable {settings : Settings} {surroundings : Surroundings} {error : RunError} {arguments : List Text}

namespace Settings

/-- A reason to stop is the reason that is given. -/
theorem perform_of_stops (stops : settings.Stops surroundings error) :
    (settings.perform surroundings).result = .error error ∧
      (settings.perform surroundings).output = [] ∧
      (settings.perform surroundings).files = surroundings.files := by
  have early (failed : settings.findRange surroundings = .error error) :
      (settings.perform surroundings).result = .error error ∧
        (settings.perform surroundings).output = [] ∧
        (settings.perform surroundings).files = surroundings.files := by
    rw [perform_of_refused failed]
    exact ⟨rfl, rfl, rfl⟩
  cases stops with
  | settings refused => exact early (by simp only [findRange, refused])
  | repository valid notOpened => exact early (by simp only [findRange, valid, notOpened])
  | range valid opened noRange => exact early (by simp only [findRange, valid, opened, noRange])
  | plan found planned rejected =>
      rw [perform_of_rejected planned found rejected]
      exact ⟨rfl, rfl, rfl⟩
  | target accepts isReport noTarget =>
      obtain ⟨found, planned, loaded⟩ := accepts
      have notCheck : settings.command ≠ .check := by simp [isReport]
      simp [perform, found, planned, loaded, notCheck, writeReport, noTarget]
  | hash accepts isReport targeted notMade =>
      obtain ⟨found, planned, loaded⟩ := accepts
      have notCheck : settings.command ≠ .check := by simp [isReport]
      simp [perform, found, planned, loaded, notCheck, writeReport, targeted, notMade]

end Settings

/-- A run whose command line is refused, that stops before it writes a report, or that has no
report to write leaves all files as they were, and ends with zero only if nothing was wrong. A
run that writes a report prints where, and changes nothing but what stands there, beside the
target at which a converter did not come off. -/
theorem run_leaves_files (discreet : surroundings.machine.Discreet)
    (fresh : surroundings.machine.Fresh surroundings.files) (arguments : List Text) :
    (∀ error, Settings.ofArguments surroundings.environment arguments = .error error →
      (run surroundings arguments).files = surroundings.files ∧
        ((run surroundings arguments).code = 0 ↔ error = .displayHelp ∨ error = .displayVersion)) ∧
    ∀ settings, Settings.ofArguments surroundings.environment arguments = .ok settings →
      (∀ error, settings.Stops surroundings error →
        (run surroundings arguments).code ≠ 0 ∧ (run surroundings arguments).output = [] ∧
          (run surroundings arguments).files = surroundings.files) ∧
      (settings.command ≠ .report → (run surroundings arguments).files = surroundings.files) ∧
      ((run surroundings arguments).code ≠ 0 →
        (∃ error, settings.Stops surroundings error) ∨
          ∃ repository range shown records target report failure,
            settings.Accepts surroundings repository range shown records ∧
            settings.Reports surroundings repository range records target report ∧
            report.write surroundings.machine surroundings.files target settings.pdfConverter =
              (.error failure, (run surroundings arguments).files)) ∧
      (settings.command = .report → (run surroundings arguments).code = 0 →
        ∃ repository range shown records target report written,
          settings.Accepts surroundings repository range shown records ∧
          settings.Reports surroundings repository range records target report ∧
          (run surroundings arguments).output = unlines [written.path] ∧
          report.Leaves surroundings.machine surroundings.files target settings.pdfConverter written
            (run surroundings arguments).files) := by
  constructor
  · intro error refused
    have ended : run surroundings arguments = {
        code := error.exitCode, output := [], errors := [], shown := [], files := surroundings.files } := by
      simp only [run, refused]
    rw [ended]
    refine ⟨rfl, ?_⟩
    cases error <;> simp [ArgumentError.exitCode]
  · intro settings accepted
    have ended : run surroundings arguments = (settings.perform surroundings).finish := by
      simp only [run, accepted]
    rw [ended, Progress.finish_files, Progress.finish_output, ne_eq, Progress.finish_code]
    refine ⟨?_, ?_⟩
    · intro error stops
      obtain ⟨result, output, files⟩ := Settings.perform_of_stops stops
      refine ⟨?_, output, files⟩
      rw [result]
      simp
    · have ends := settings.ends surroundings
      generalize settings.perform surroundings = progress at ends ⊢
      cases ends with
      | stopped stops => exact ⟨fun _ => rfl, fun _ => .inl ⟨_, stops⟩, fun _ result => by contradiction⟩
      | planned found isPlan =>
          refine ⟨fun _ => rfl, fun failed => absurd rfl failed, fun isReport => ?_⟩
          rw [isPlan] at isReport
          contradiction
      | checked accepts isCheck =>
          refine ⟨fun _ => rfl, fun failed => absurd rfl failed, fun isReport => ?_⟩
          rw [isCheck] at isReport
          contradiction
      | reported accepts reports answer =>
          exact ⟨fun other => absurd reports.isReport other, fun failed => absurd rfl failed,
            fun _ _ => ⟨_, _, _, _, _, _, _, accepts, reports, rfl,
              Report.write_leaves discreet fresh answer⟩⟩
      | unwritten accepts reports answer =>
          exact ⟨fun other => absurd reports.isReport other,
            fun _ => .inr ⟨_, _, _, _, _, _, _, accepts, reports, answer⟩,
            fun _ result => by contradiction⟩

theorem discreet_writingMachine : Report.writingMachine.Discreet := by
  intro program name own source output input files outcome ended
  have last : (own ++ [source, output]).getLast?.getD [] = output := by simp
  simp only [Report.writingMachine, last] at ended
  cases wrote : files.write output (Utf8.encode "new".toList) with
  | error cause =>
      simp only [wrote, Except.ok.injEq] at ended
      rw [← ended]
      exact .refl _ _
  | ok after =>
      simp only [wrote, Except.ok.injEq] at ended
      rw [← ended]
      exact (FileSystem.Touches.of_write wrote).mono (by simp)

theorem fresh_workbench : workbench.machine.Fresh workbench.files := by
  have scratch : workbench.files.locate workbench.machine.scratchPath =
      .ok ["tmp".toList, "report.html".toList] := by
    decide +kernel
  exact .of_locate scratch (by decide +kernel)

/-- Settings for a PDF of the plan on the standard input. -/
def workbenchSettings : Settings where
  command := .report
  base := "HEAD~2".toList
  tip := "main".toList
  source := .standardInput
  repository := none
  output := some "out".toList
  attempts := Settings.defaultAttempts
  markupConverter := Settings.defaultMarkupConverter
  noMarkupConverter := false
  pdfConverter := "topdf".toList
  title := none
  verbose := false
  quiet := false

def workbenchArguments : List Text :=
  ["HEAD~2", "main", "--plan-stdin", "--pdf-converter", "topdf", "-o", "out"].map String.toList

theorem workbench_accepts :
    workbenchSettings.Accepts workbench Repository.merged mergedRange [] workbenchRecords := by
  have valid : workbenchSettings.validate workbench.files = .ok () := by decide +kernel
  have opened : workbenchSettings.openRepository workbench = .ok Repository.merged := by decide +kernel
  have result : (workbenchSettings.loadPlan workbench Repository.merged mergedRange).result =
      .ok workbenchRecords := by
    decide +kernel
  refine ⟨?_, by decide, ?_⟩
  · simp only [Settings.findRange, valid, opened]
    rw [show Repository.merged.range workbenchSettings.base workbenchSettings.tip = .ok mergedRange from
      merged_range]
  · rw [← result]
    rfl

theorem workbench_ends : (workbenchSettings.perform workbench).result = .ok () := by
  obtain ⟨found, planned, loaded⟩ := workbench_accepts
  have notCheck : workbenchSettings.command ≠ .check := by decide
  simp only [Settings.perform, found, if_neg planned, loaded, if_neg notCheck]
  decide +kernel

/-- A report run that makes a PDF changes what stands at its path, and a check changes nothing. -/
theorem workbench_leaves_files :
    workbench.machine.Discreet ∧ workbench.machine.Fresh workbench.files ∧
      (run workbench workbenchArguments).code = 0 ∧
      (∃ written : Written, (run workbench workbenchArguments).output = unlines [written.path] ∧
        workbench.files.Touches (written.footprint Report.pdfTarget)
          (run workbench workbenchArguments).files) ∧
      (run workbench (["check", "HEAD~2", "main"].map String.toList)).files = workbench.files := by
  have read : Settings.ofArguments workbench.environment workbenchArguments = .ok workbenchSettings := by
    decide +kernel
  have readToo : Settings.ofArguments workbench.environment (["check", "HEAD~2", "main"].map String.toList) =
      .ok { workbenchSettings with
            command := .check, source := .default, output := none
            pdfConverter := Settings.defaultPdfConverter } := by
    decide +kernel
  have frame := run_leaves_files discreet_writingMachine fresh_workbench
  obtain ⟨_, _, _, reported⟩ := (frame workbenchArguments).2 _ read
  obtain ⟨_, unchanged, _, _⟩ := (frame _).2 _ readToo
  have code : (run workbench workbenchArguments).code = 0 := by
    simp only [run, read, Progress.finish_code, workbench_ends]
  obtain ⟨_, range, _, _, target, _, written, _, reports, output, leaves⟩ := reported rfl code
  have isTarget : target = Report.pdfTarget := by
    have meant : OutputTarget.ofPath workbench.files "out".toList = .ok Report.pdfTarget := by decide +kernel
    have given : workbenchSettings.target workbench.files range = .ok Report.pdfTarget := by
      simp only [Settings.target, workbenchSettings, meant]
    exact Except.ok.inj (reports.targeted.symm.trans given)
  exact ⟨discreet_writingMachine, fresh_workbench, code,
    ⟨written, output, isTarget ▸ leaves.touches⟩, unchanged (by decide)⟩

end CuratedHistory
