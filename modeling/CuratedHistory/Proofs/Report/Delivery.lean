import CuratedHistory.Proofs.Report.Fallback
import CuratedHistory.Proofs.Report.Footprint

namespace CuratedHistory

/-! What a report leaves behind when it is written: the whole document where it says it is, the
reason if that is not where it was asked for, and everything else as it was. -/

namespace FileSystem

variable {files after : FileSystem} {path : Text} {content : Bytes}

theorem find_of_writable_sink (canWrite : files.writable path = .ok .sink) : files.find path = .ok .sink := by
  unfold writable at canWrite
  split at canWrite
  · cases located : files.locate (withoutFinalSeparators path) <;> simp [located] at canWrite
  · cases located : files.locate path with
    | error cause => simp [located] at canWrite
    | ok place =>
        cases stands : files.node? place with
        | none => simp [located, stands] at canWrite
        | some node => cases node <;> simp_all [find]

/-- What is written is there, unless a sink has swallowed it. -/
theorem read_or_sink (written : files.write path content = .ok after) :
    after.read path = .ok content ∨ (after = files ∧ files.find path = .ok .sink) := by
  cases canWrite : files.writable path with
  | error cause => simp [write, canWrite] at written
  | ok place =>
      cases place with
      | sink =>
          simp only [write, canWrite, Except.ok.injEq] at written
          exact .inr ⟨written.symm, find_of_writable_sink canWrite⟩
      | file location mode =>
          obtain ⟨other, wrote, read⟩ : ∃ other, files.write path content = .ok other ∧
              other.read path = .ok content := read_write canWrite
          rw [written, Except.ok.injEq] at wrote
          rw [wrote]
          exact .inl read

/-- A path holds what was written there last, as far as anything can be held there. -/
def Holds (files : FileSystem) (path : Text) (content : Bytes) : Prop :=
  files.read path = .ok content ∨ files.find path = .ok .sink

theorem holds_of_write (written : files.write path content = .ok after) : after.Holds path content := by
  obtain read | ⟨rfl, sink⟩ := read_or_sink written
  · exact .inl read
  · exact .inr sink

end FileSystem

theorem Text.words_eq_nil_iff {text : Text} : Text.words text = [] ↔ ∀ c ∈ text, isBlank c = true := by
  induction text with
  | nil => simp [Text.words]
  | cons c rest ih =>
      rw [List.forall_mem_cons]
      cases blank : isBlank c with
      | true => simp [Text.words, blank, ih]
      | false =>
          have something : Text.words (c :: rest) ≠ [] := by
            cases rest with
            | nil => simp [Text.words, blank]
            | cons d rest =>
                unfold Text.words
                simp only [blank, Bool.false_eq_true, if_false]
                split_ifs
                · exact List.cons_ne_nil _ _
                · split <;> exact List.cons_ne_nil _ _
          simp [something]

theorem Converter.ofCommand?_eq_none_iff {command : Text} :
    ofCommand? command = none ↔ ∀ c ∈ command, isBlank c = true := by
  rw [← Text.words_eq_nil_iff, ofCommand?]
  cases Text.words command <;> simp

namespace Report

variable {report : Report} {machine : Machine} {files next after : FileSystem} {target : OutputTarget}
  {command path : Text} {written : Written} {result : Except PdfFailure Unit} {failure : PdfFailure}
  {cause : FileError}

/-- How the attempt at a PDF ends, with what is left of the files: the command is blank, its program
is missing, nothing comes of a start, or the program has run and what it did is judged. -/
inductive Attempt (report : Report) (machine : Machine) (files : FileSystem) (command path : Text) :
    Except PdfFailure Unit → FileSystem → Prop where
  | blank (nothing : ∀ c ∈ command, isBlank c = true) :
      Attempt report machine files command path (.error .noConverter) files
  | missing {converter : Converter} (parsed : Converter.ofCommand? command = some converter)
      (absent : converter.locate? machine.searchPath files = none) :
      Attempt report machine files command path (.error (.notFound converter.program)) files
  | unscratched {converter : Converter} {program : Text} {cause : FileError}
      (parsed : Converter.ofCommand? command = some converter)
      (located : converter.locate? machine.searchPath files = some program)
      (refused : files.write machine.scratchPath (Utf8.encode report.html) = .error cause) :
      Attempt report machine files command path (.error (.noScratchFile cause)) files
  | unstarted {converter : Converter} {program : Text} {scratched : FileSystem} {cause : FileError}
      (parsed : Converter.ofCommand? command = some converter)
      (located : converter.locate? machine.searchPath files = some program)
      (scratch : files.write machine.scratchPath (Utf8.encode report.html) = .ok scratched)
      (refused : machine.programs program converter.program
        (converter.arguments ++ [machine.scratchPath, path]) [] scratched = .error cause) :
      Attempt report machine files command path (.error (.notStarted converter.text cause)) files
  | ran {converter : Converter} {scratched : FileSystem} {outcome : Outcome}
      (converts : report.Converts machine files command path converter scratched outcome) :
      Attempt report machine files command path (judged converter path outcome)
        (withoutScratch outcome.files machine.scratchPath)

/-- Every attempt ends in one of these ways. -/
theorem attempt_of_writePdf (attempted : report.writePdf machine files command path = (result, next)) :
    report.Attempt machine files command path result next := by
  cases parsed : Converter.ofCommand? command with
  | none =>
      simp only [writePdf, parsed, Prod.mk.injEq] at attempted
      obtain ⟨rfl, rfl⟩ := attempted
      exact .blank (Converter.ofCommand?_eq_none_iff.mp parsed)
  | some converter =>
      cases located : converter.locate? machine.searchPath files with
      | none =>
          simp only [writePdf, parsed, located, Prod.mk.injEq] at attempted
          obtain ⟨rfl, rfl⟩ := attempted
          exact .missing parsed located
      | some program =>
          cases scratch : files.write machine.scratchPath (Utf8.encode report.html) with
          | error cause =>
              simp only [writePdf, parsed, located, convert, scratch, Prod.mk.injEq] at attempted
              obtain ⟨rfl, rfl⟩ := attempted
              exact .unscratched parsed located scratch
          | ok scratched =>
              cases ended : machine.programs program converter.program
                  (converter.arguments ++ [machine.scratchPath, path]) [] scratched with
              | error cause =>
                  simp only [writePdf, parsed, located, convert, scratch, ended, Prod.mk.injEq] at attempted
                  obtain ⟨rfl, rfl⟩ := attempted
                  exact .unstarted parsed located scratch ended
              | ok outcome =>
                  have converts : report.Converts machine files command path converter scratched outcome :=
                    .run parsed located scratch ended
                  rw [converts.writePdf_eq, Prod.mk.injEq] at attempted
                  obtain ⟨rfl, rfl⟩ := attempted
                  exact .ran converts

/-- The scratch file that a converter is started on has the whole document in it. -/
theorem Converts.read_scratch {converter : Converter} {scratched : FileSystem} {outcome : Outcome}
    (fresh : machine.Fresh files)
    (converts : report.Converts machine files command path converter scratched outcome) :
    scratched.read machine.scratchPath = .ok (Utf8.encode report.html) := by
  cases converts with
  | run parsed located scratch ended =>
      obtain read | ⟨_, sink⟩ := FileSystem.read_or_sink scratch
      · exact read
      · obtain ⟨location, leads, stands⟩ := FileSystem.find_eq_ok_iff.mp sink
        rw [fresh location leads] at stands
        contradiction

/-- The answer to a report that is written, with the files that are left. -/
inductive Delivered (report : Report) (machine : Machine) (files : FileSystem) (target : OutputTarget)
    (command : Text) : Except WriteError Written → FileSystem → Prop where
  /-- HTML was asked for and is there. -/
  | page {after : FileSystem} (isHtml : target.format = .html)
      (holds : after.Holds target.path (Utf8.encode report.html))
      (touches : files.Touches [target.path] after) :
      Delivered report machine files target command
        (.ok { path := target.path, format := .html, degraded := none }) after
  /-- HTML was asked for and cannot be written. -/
  | noPage {cause : FileError} (isHtml : target.format = .html)
      (refused : files.write target.path (Utf8.encode report.html) = .error cause) :
      Delivered report machine files target command (.error { path := target.path, cause }) files
  /-- The converter has made a PDF of the whole document, and no HTML was written beside it. -/
  | pdf {converter : Converter} {scratched : FileSystem} {outcome : Outcome} (isPdf : target.format = .pdf)
      (converts : report.Converts machine files command target.path converter scratched outcome)
      (given : scratched.read machine.scratchPath = .ok (Utf8.encode report.html))
      (succeeded : outcome.ending.isSuccess = true)
      (present : outcome.files.isFile target.path = true)
      (touches : files.Touches [target.path] (withoutScratch outcome.files machine.scratchPath))
      (beside : files.place target.htmlFallback ≠ files.place target.path →
        (withoutScratch outcome.files machine.scratchPath).node? (files.place target.htmlFallback) =
          files.node? (files.place target.htmlFallback)) :
      Delivered report machine files target command
        (.ok { path := target.path, format := .pdf, degraded := none })
        (withoutScratch outcome.files machine.scratchPath)
  /-- No PDF came off, and the HTML with the reason as its last notice is there instead. -/
  | instead {failure : PdfFailure} {next after : FileSystem} (isPdf : target.format = .pdf)
      (attempt : report.Attempt machine files command target.path (.error failure) next)
      (reason : failure.message <+: failure.notice)
      (holds : after.Holds target.htmlFallback (Utf8.encode (report.addNotice failure.notice).html))
      (left : files.Touches [target.path] next) (touches : next.Touches [target.htmlFallback] after) :
      Delivered report machine files target command
        (.ok { path := target.htmlFallback, format := .html, degraded := some failure.notice }) after
  /-- No PDF came off, and the HTML cannot be written either. -/
  | nothing {failure : PdfFailure} {next : FileSystem} {cause : FileError} (isPdf : target.format = .pdf)
      (attempt : report.Attempt machine files command target.path (.error failure) next)
      (refused : next.write target.htmlFallback (Utf8.encode (report.addNotice failure.notice).html) =
        .error cause)
      (left : files.Touches [target.path] next) :
      Delivered report machine files target command (.error { path := target.htmlFallback, cause }) next

theorem delivered_of_made (fresh : machine.Fresh files) (isPdf : target.format = .pdf)
    (touches : files.Touches [target.path] after)
    (made : report.writePdf machine files command target.path = (.ok (), after)) :
    report.Delivered machine files target command (.ok (asPdf target)) after := by
  obtain ⟨converter, scratched, outcome, converts⟩ := exists_converts made
  have judgement := converts.writePdf_eq
  rw [made, Prod.mk.injEq] at judgement
  obtain ⟨judged, rfl⟩ := judgement
  obtain ⟨succeeded, present⟩ := judged_eq_ok_iff.mp judged.symm
  refine .pdf isPdf converts (converts.read_scratch fresh) succeeded present touches fun apart => ?_
  refine touches.elsewhere _ fun path member => ?_
  rw [List.mem_singleton.mp member]
  exact apart

theorem Answers.delivered {answer : Except WriteError Written} (discreet : machine.Discreet)
    (fresh : machine.Fresh files) (answers : report.Answers machine files target command answer after) :
    report.Delivered machine files target command answer after := by
  cases answers with
  | page isHtml wrote => exact .page isHtml (FileSystem.holds_of_write wrote) (.of_write wrote)
  | noPage isHtml refused => exact .noPage isHtml refused
  | pdf isPdf made => exact delivered_of_made fresh isPdf (touches_of_writePdf discreet fresh made) made
  | instead isPdf failed wrote =>
      exact .instead isPdf (attempt_of_writePdf failed) (List.prefix_append _ _)
        (FileSystem.holds_of_write wrote) (touches_of_writePdf discreet fresh failed) (.of_write wrote)
  | nothing isPdf failed refused =>
      exact .nothing isPdf (attempt_of_writePdf failed) refused (touches_of_writePdf discreet fresh failed)

/-- A document that is written has the notices of the report, and behind them at most its own. -/
theorem Answers.holds (answers : report.Answers machine files target command (.ok written) after)
    (isHtml : written.format = .html) :
    after.Holds written.path (Utf8.encode (report.noticed written).html) := by
  cases answers with
  | page _ wrote => exact FileSystem.holds_of_write wrote
  | pdf _ made => contradiction
  | instead _ _ wrote => exact FileSystem.holds_of_write wrote

theorem noticed_notices (report : Report) (written : Written) :
    (report.noticed written).notices = report.notices ++ written.degraded.toList := by
  cases degraded : written.degraded with
  | none => simp [noticed, degraded]
  | some notice => simp [noticed, degraded, addNotice]

/-- Writing a report leaves the whole document at the path that the answer gives, or a PDF that was
made of it, or the answer names the HTML that could not be written. Nothing else has changed but a
PDF target at which a converter was tried. The HTML beside a target that was accepted is in another
place, so a PDF leaves it alone. Whatever was written before, the same report has its own notices
and no more when it is written again. -/
theorem write_delivers (discreet : machine.Discreet) (fresh : machine.Fresh files) (report : Report)
    (target : OutputTarget) (command : Text) :
    report.Delivered machine files target command (report.write machine files target command).1
        (report.write machine files target command).2 ∧
      (∀ path, OutputTarget.ofPath files path = .ok target → target.format = .pdf →
        files.place target.htmlFallback ≠ files.place target.path) ∧
      ∀ (machine : Machine) (files : FileSystem) (target : OutputTarget) (command : Text)
        (again : Written) (last : FileSystem),
        report.write machine files target command = (.ok again, last) →
          (report.noticed again).notices = report.notices ++ again.degraded.toList ∧
          (again.format = .html → last.Holds again.path (Utf8.encode (report.noticed again).html)) := by
  refine ⟨(report.write_answers machine files target command).delivered discreet fresh, ?_, ?_⟩
  · intro path accepted isPdf
    exact OutputTarget.place_htmlFallback_ne accepted isPdf files
  · intro machine files target command again last answer
    have answers := report.write_answers machine files target command
    rw [answer] at answers
    exact ⟨report.noticed_notices again, answers.holds⟩

/-- The bench with a device that swallows what is written, and a page of an earlier report. -/
def benchWithDevice : FileSystem :=
  ((bench.put ["dev".toList] .directory).put ["dev".toList, "null".toList] .sink).put
    ["work".toList, "out.html".toList] (.file 420 (Utf8.encode "old".toList))

/-- HTML that is sent to a device is nowhere, and a PDF under the name of its own HTML takes its
place. -/
theorem exists_undelivered :
    ((blank.write idleMachine benchWithDevice { path := "/dev/null".toList, format := .html } []).1 =
        .ok { path := "/dev/null".toList, format := .html, degraded := none } ∧
      (blank.write idleMachine benchWithDevice { path := "/dev/null".toList, format := .html } []).2.read
          "/dev/null".toList ≠ .ok (Utf8.encode blank.html)) ∧
    OutputTarget.htmlFallback { path := "out.html".toList, format := .pdf } = "out.html".toList ∧
      (blank.write writingMachine benchWithDevice { path := "out.html".toList, format := .pdf }
          "topdf".toList).1 = .ok { path := "out.html".toList, format := .pdf, degraded := none } ∧
      (blank.write writingMachine benchWithDevice { path := "out.html".toList, format := .pdf }
          "topdf".toList).2.read "out.html".toList ≠ benchWithDevice.read "out.html".toList := by
  refine ⟨⟨?_, ?_⟩, ?_, ?_, ?_⟩ <;> decide +kernel

theorem discreet_idleMachine : idleMachine.Discreet := by
  intro program name own source output input files outcome ended
  cases ended
  exact .refl _ _

theorem fresh_bench : idleMachine.Fresh bench :=
  .of_locate (by decide +kernel : bench.locate idleMachine.scratchPath = .ok ["tmp".toList, "report.html".toList])
    (by decide +kernel)

/-- A report that could not be made a PDF has no notice of that when it goes to a page after. -/
theorem write_delivers_again :
    idleMachine.Discreet ∧ idleMachine.Fresh bench ∧
      (blank.write idleMachine bench pdfTarget "topdf".toList).1 =
        .ok { path := "out.html".toList, format := .html
              degraded := some (PdfFailure.noOutput "topdf".toList "out.pdf".toList).notice } ∧
      blank.Delivered idleMachine bench pdfTarget "topdf".toList
        (blank.write idleMachine bench pdfTarget "topdf".toList).1
        (blank.write idleMachine bench pdfTarget "topdf".toList).2 ∧
      (blank.write idleMachine (blank.write idleMachine bench pdfTarget "topdf".toList).2
          { path := "page.html".toList, format := .html } "topdf".toList).2.Holds "page.html".toList
        (Utf8.encode blank.html) := by
  obtain ⟨delivered, _, again⟩ :=
    write_delivers discreet_idleMachine fresh_bench blank pdfTarget "topdf".toList
  refine ⟨discreet_idleMachine, fresh_bench, by decide +kernel, delivered, ?_⟩
  have answer : (blank.write idleMachine (blank.write idleMachine bench pdfTarget "topdf".toList).2
      { path := "page.html".toList, format := .html } "topdf".toList).1 =
        .ok { path := "page.html".toList, format := .html, degraded := none } := by
    decide +kernel
  exact (again _ _ _ _ _ _ (Prod.ext answer rfl)).2 rfl

end Report

end CuratedHistory
