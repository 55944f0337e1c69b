import CuratedHistory.CommandLine.Run
import CuratedHistory.Proofs.Plan.Parsing
import CuratedHistory.Proofs.Report.Footprint
import CuratedHistory.Proofs.Repository.Range

namespace CuratedHistory

/-! How a run can end, stage by stage, and what it then leaves behind: the files as they were,
unless a report is written. -/

variable {settings : Settings} {surroundings : Surroundings} {repository : Repository}
  {range : CommitRange} {shown : List Bytes} {records : List Record} {error : RunError}
  {progress : Progress}

namespace Settings

/-- A run comes to a range, and to a plan for it that is accepted. -/
structure Accepts (settings : Settings) (surroundings : Surroundings) (repository : Repository)
    (range : CommitRange) (shown : List Bytes) (records : List Record) : Prop where
  found : settings.findRange surroundings = .ok (repository, range)
  planned : settings.command ≠ .plan
  loaded : settings.loadPlan surroundings repository range = { shown, result := .ok records }

/-- A run comes to a report, and to the target for it. -/
structure Reports (settings : Settings) (surroundings : Surroundings) (repository : Repository)
    (range : CommitRange) (records : List Record) (target : OutputTarget) (report : Report) : Prop where
  isReport : settings.command = .report
  targeted : settings.target surroundings.files range = .ok target
  made : settings.report? surroundings repository range
    (Markup.select surroundings.machine surroundings.files settings.markupCommand) (compile records) =
      some report

/-- Why a run stops before it writes a report. -/
inductive Stops (settings : Settings) (surroundings : Surroundings) : RunError → Prop where
  | settings {error : SettingsError} (refused : settings.validate surroundings.files = .error error) :
      Stops settings surroundings (.settings error)
  | repository {error : RepositoryError} (valid : settings.validate surroundings.files = .ok ())
      (notOpened : settings.openRepository surroundings = .error error) :
      Stops settings surroundings (.repository error)
  | range {repository : Repository} {error : RepositoryError}
      (valid : settings.validate surroundings.files = .ok ())
      (opened : settings.openRepository surroundings = .ok repository)
      (noRange : repository.range settings.base settings.tip = .error error) :
      Stops settings surroundings (.range settings.base settings.tip error)
  | plan {repository : Repository} {range : CommitRange} {error : SourceError}
      (found : settings.findRange surroundings = .ok (repository, range))
      (planned : settings.command ≠ .plan)
      (rejected : (settings.loadPlan surroundings repository range).result = .error error) :
      Stops settings surroundings (.plan error)
  | target {repository : Repository} {range : CommitRange} {shown : List Bytes} {records : List Record}
      {error : RunError} (accepts : settings.Accepts surroundings repository range shown records)
      (isReport : settings.command = .report)
      (noTarget : settings.target surroundings.files range = .error error) :
      Stops settings surroundings error
  | hash {repository : Repository} {range : CommitRange} {shown : List Bytes} {records : List Record}
      {target : OutputTarget} (accepts : settings.Accepts surroundings repository range shown records)
      (isReport : settings.command = .report)
      (targeted : settings.target surroundings.files range = .ok target)
      (notMade : settings.report? surroundings repository range
        (Markup.select surroundings.machine surroundings.files settings.markupCommand) (compile records) =
          none) :
      Stops settings surroundings .hash

/-- The ways in which a run ends. -/
inductive Ends (settings : Settings) (surroundings : Surroundings) : Progress → Prop where
  | stopped {error : RunError} {shown : List Bytes} (stops : settings.Stops surroundings error) :
      Ends settings surroundings {
        output := [], warnings := [], shown, result := .error error, files := surroundings.files }
  | planned {repository : Repository} {range : CommitRange}
      (found : settings.findRange surroundings = .ok (repository, range))
      (isPlan : settings.command = .plan) :
      Ends settings surroundings {
        output := range.defaultPlan, warnings := [], shown := [], result := .ok ()
        files := surroundings.files }
  | checked {repository : Repository} {range : CommitRange} {shown : List Bytes} {records : List Record}
      (accepts : settings.Accepts surroundings repository range shown records)
      (isCheck : settings.command = .check) :
      Ends settings surroundings {
        output := unlines [checkText range (compile records)], warnings := [], shown, result := .ok ()
        files := surroundings.files }
  | reported {repository : Repository} {range : CommitRange} {shown : List Bytes} {records : List Record}
      {target : OutputTarget} {report : Report} {written : Written} {warnings : List Text}
      {after : FileSystem}
      (accepts : settings.Accepts surroundings repository range shown records)
      (reports : settings.Reports surroundings repository range records target report)
      (answer : report.write surroundings.machine surroundings.files target settings.pdfConverter =
        (.ok written, after)) :
      Ends settings surroundings {
        output := unlines [written.path], warnings, shown, result := .ok (), files := after }
  | unwritten {repository : Repository} {range : CommitRange} {shown : List Bytes} {records : List Record}
      {target : OutputTarget} {report : Report} {error : WriteError} {warnings : List Text}
      {after : FileSystem}
      (accepts : settings.Accepts surroundings repository range shown records)
      (reports : settings.Reports surroundings repository range records target report)
      (answer : report.write surroundings.machine surroundings.files target settings.pdfConverter =
        (.error error, after)) :
      Ends settings surroundings {
        output := [], warnings, shown, result := .error (.write error), files := after }

theorem stops_of_findRange (failed : settings.findRange surroundings = .error error) :
    settings.Stops surroundings error := by
  unfold findRange at failed
  cases valid : settings.validate surroundings.files with
  | error refused =>
      simp only [valid, Except.error.injEq] at failed
      exact failed ▸ .settings valid
  | ok _ =>
      cases opened : settings.openRepository surroundings with
      | error notOpened =>
          simp only [valid, opened, Except.error.injEq] at failed
          exact failed ▸ .repository valid opened
      | ok repository =>
          cases ranged : repository.range settings.base settings.tip with
          | error noRange =>
              simp only [valid, opened, ranged, Except.error.injEq] at failed
              exact failed ▸ .range valid opened ranged
          | ok range => simp [valid, opened, ranged] at failed

theorem of_findRange (found : settings.findRange surroundings = .ok (repository, range)) :
    settings.openRepository surroundings = .ok repository ∧
      repository.range settings.base settings.tip = .ok range := by
  unfold findRange at found
  cases valid : settings.validate surroundings.files with
  | error refused => simp [valid] at found
  | ok _ =>
      cases opened : settings.openRepository surroundings with
      | error notOpened => simp [valid, opened] at found
      | ok other =>
          cases ranged : other.range settings.base settings.tip with
          | error noRange => simp [valid, opened, ranged] at found
          | ok between =>
              simp only [valid, opened, ranged, Except.ok.injEq, Prod.mk.injEq] at found
              obtain ⟨rfl, rfl⟩ := found
              exact ⟨rfl, ranged⟩

theorem perform_of_refused (refused : settings.findRange surroundings = .error error) :
    settings.perform surroundings =
      { output := [], warnings := [], shown := [], result := .error error, files := surroundings.files } := by
  simp only [perform, refused]

theorem perform_of_rejected {cause : SourceError} (planned : settings.command ≠ .plan)
    (found : settings.findRange surroundings = .ok (repository, range))
    (rejected : (settings.loadPlan surroundings repository range).result = .error cause) :
    settings.perform surroundings = {
      output := [], warnings := [], shown := (settings.loadPlan surroundings repository range).shown
      result := .error (.plan cause), files := surroundings.files } := by
  simp only [perform, found, if_neg planned, rejected]

theorem ends_writeReport (accepts : settings.Accepts surroundings repository range shown records)
    (isReport : settings.command = .report) :
    settings.Ends surroundings
      (settings.writeReport surroundings repository range shown (compile records)) := by
  unfold writeReport
  cases targeted : settings.target surroundings.files range with
  | error error =>
      simp only [targeted]
      exact .stopped (.target accepts isReport targeted)
  | ok target =>
      cases made : settings.report? surroundings repository range
          (Markup.select surroundings.machine surroundings.files settings.markupCommand)
          (compile records) with
      | none =>
          simp only [targeted, made]
          exact .stopped (.hash accepts isReport targeted made)
      | some report =>
          cases answer : report.write surroundings.machine surroundings.files target
              settings.pdfConverter with
          | mk written after =>
              cases written with
              | error error =>
                  simp only [targeted, made, answer]
                  exact .unwritten accepts ⟨isReport, targeted, made⟩ answer
              | ok written =>
                  simp only [targeted, made, answer]
                  exact .reported accepts ⟨isReport, targeted, made⟩ answer

/-- Every run ends in one of these ways. -/
theorem ends (settings : Settings) (surroundings : Surroundings) :
    settings.Ends surroundings (settings.perform surroundings) := by
  unfold perform
  cases found : settings.findRange surroundings with
  | error error => exact .stopped (stops_of_findRange found)
  | ok pair =>
      obtain ⟨repository, range⟩ := pair
      by_cases isPlan : settings.command = .plan
      · simp only [if_pos isPlan]
        exact .planned found isPlan
      · cases loaded : settings.loadPlan surroundings repository range with
        | mk shown result =>
            cases result with
            | error error =>
                simp only [if_neg isPlan, loaded]
                exact .stopped (.plan found isPlan (by rw [loaded]))
            | ok records =>
                have accepts : settings.Accepts surroundings repository range shown records :=
                  ⟨found, isPlan, loaded⟩
                by_cases isCheck : settings.command = .check
                · simp only [if_neg isPlan, loaded, if_pos isCheck]
                  exact .checked accepts isCheck
                · have isReport : settings.command = .report := by
                    cases command : settings.command <;> simp_all
                  simp only [if_neg isPlan, loaded, if_neg isCheck]
                  exact ends_writeReport accepts isReport

end Settings

namespace Progress

theorem finish_files (progress : Progress) : progress.finish.files = progress.files := by
  unfold finish
  split <;> rfl

theorem finish_output (progress : Progress) : progress.finish.output = progress.output := by
  unfold finish
  split <;> rfl

/-- Only a run that has come to its end without an error ends with zero. -/
theorem finish_code (progress : Progress) : progress.finish.code = 0 ↔ progress.result = .ok () := by
  unfold finish
  split <;> simp_all [hashCode]

end Progress

/-! A bench with a repository on it -/

/-- The bench with the merge as its repository, and a plan on the standard input. -/
def workbench : Surroundings where
  files := Report.bench.withData ["work".toList]
  machine := Report.writingMachine
  repositories := fun place =>
    if place = ["work".toList, dataName] then some Repository.merged else none
  environment := fun _ => none
  standardInput := Utf8.encode "drop bbbbbbb\npick ddddddd".toList
  editors := Editor.missing
  now := Instant.ofSeconds 0

open Repository in
def mergedRange : CommitRange where
  base := List.replicate hashLength 'a'
  tip := List.replicate hashLength 'd'
  commits := [plainCommit 'b' ['a'], plainCommit 'd' ['b', 'c']].map StoredCommit.metadata

def workbenchRecords : List Record :=
  [plainRecord 1 .drop 'b', plainRecord 2 .pick 'd']

open Repository in
theorem merged_range : merged.range "HEAD~2".toList "main".toList = .ok mergedRange := by
  have baseFound : merged.revision "HEAD~2".toList = .ok (plainCommit 'a' []) := by decide +kernel
  have tipFound : merged.revision "main".toList = .ok (plainCommit 'd' ['b', 'c']) := by decide +kernel
  have first : FirstParentChain merged (plainCommit 'a' []).hash (plainCommit 'b' ['a']).hash
      ([] ++ [plainCommit 'b' ['a']]) := .step (by decide +kernel) rfl .arrived
  have merge : FirstParentChain merged (plainCommit 'a' []).hash (plainCommit 'd' ['b', 'c']).hash
      ([] ++ [plainCommit 'b' ['a']] ++ [plainCommit 'd' ['b', 'c']]) :=
    .step (by decide +kernel) rfl first
  exact range_of_chain baseFound tipFound merge.reaches ((chain?_eq_some_iff merged_acyclic).2 merge)

end CuratedHistory
