import Mathlib.Data.List.Basic
import CuratedHistory.Proofs.Files.FileSystem
import CuratedHistory.Report.Written

namespace CuratedHistory

/-! When a report counts as a PDF: after a run of the converter that succeeds, and with a
file at the target. Nothing tells a file that this run has made from an older one, unless
no file stood there before. -/

namespace Report

variable {report : Report} {machine : Machine} {files scratched after : FileSystem}
  {target : OutputTarget} {command path : Text} {outcome : Outcome} {converter : Converter}
  {program : Text} {failure : PdfFailure} {written : Written}

/-- A run of the converter from start to end: its program is found, the HTML is in the
scratch file, and the program gets both paths. -/
inductive Converts (report : Report) (machine : Machine) (files : FileSystem) (command path : Text) :
    Converter → FileSystem → Outcome → Prop where
  | run {converter : Converter} {program : Text} {scratched : FileSystem} {outcome : Outcome}
      (parsed : Converter.ofCommand? command = some converter)
      (located : converter.locate? machine.searchPath files = some program)
      (scratch : files.write machine.scratchPath (Utf8.encode report.html) = .ok scratched)
      (ended : machine.programs program converter.program
        (converter.arguments ++ [machine.scratchPath, path]) [] scratched = .ok outcome) :
      Converts report machine files command path converter scratched outcome

/-- The outcome of a run as it is judged: by the ending, and by a file at the target. -/
def judged (converter : Converter) (path : Text) (outcome : Outcome) : Except PdfFailure Unit :=
  if !outcome.ending.isSuccess then
    .error (.failed converter.text outcome.ending (Text.trim (Utf8.decodeLenient outcome.errors)))
  else if outcome.files.isFile path then .ok ()
  else .error (.noOutput converter.text path)

theorem judged_eq_ok_iff :
    judged converter path outcome = .ok () ↔
      outcome.ending.isSuccess = true ∧ outcome.files.isFile path = true := by
  unfold judged
  cases outcome.ending.isSuccess <;> cases outcome.files.isFile path <;> simp

theorem Converts.writePdf_eq (converts : report.Converts machine files command path converter scratched outcome) :
    report.writePdf machine files command path =
      (judged converter path outcome, withoutScratch outcome.files machine.scratchPath) := by
  cases converts with
  | run parsed located scratch ended =>
      simp only [writePdf, parsed, located, convert, scratch, ended, judged]
      split_ifs <;> rfl

theorem exists_converts (made : report.writePdf machine files command path = (.ok (), after)) :
    ∃ converter scratched outcome, report.Converts machine files command path converter scratched outcome := by
  unfold writePdf at made
  cases parsed : Converter.ofCommand? command with
  | none => simp [parsed] at made
  | some converter =>
      cases located : converter.locate? machine.searchPath files with
      | none => simp [parsed, located] at made
      | some program =>
          simp only [parsed, located, convert] at made
          cases scratch : files.write machine.scratchPath (Utf8.encode report.html) with
          | error cause => simp [scratch] at made
          | ok scratched =>
              cases ended : machine.programs program converter.program
                  (converter.arguments ++ [machine.scratchPath, path]) [] scratched with
              | error cause => simp [scratch, ended] at made
              | ok outcome => exact ⟨converter, scratched, outcome, .run parsed located scratch ended⟩

/-- The answer when no PDF is made: HTML beside its place with the reason in a notice,
unless that cannot be written either. -/
def FallsBack (target : OutputTarget) (failure : PdfFailure) (answer : Except WriteError Written) : Prop :=
  answer = .ok { path := target.htmlFallback, format := .html, degraded := some failure.notice } ∨
    ∃ cause, answer = .error { path := target.htmlFallback, cause }

def asPdf (target : OutputTarget) : Written :=
  { path := target.path, format := .pdf, degraded := none }

theorem write_of_made (isPdf : target.format = .pdf)
    (made : report.writePdf machine files command target.path = (.ok (), after)) :
    report.write machine files target command = (.ok (asPdf target), after) := by
  simp only [write, isPdf, made, asPdf]

theorem write_of_failure (isPdf : target.format = .pdf)
    (failed : report.writePdf machine files command target.path = (.error failure, after)) :
    FallsBack target failure (report.write machine files target command).1 := by
  simp only [write, isPdf, failed]
  unfold writeHtml
  cases wrote : after.write target.htmlFallback (Utf8.encode (report.addNotice failure.notice).html) with
  | ok last => exact .inl rfl
  | error cause => exact .inr ⟨cause, rfl⟩

theorem not_fallsBack_of_pdf (isPdf : written.format = .pdf) : ¬ FallsBack target failure (.ok written) := by
  rintro (same | ⟨cause, same⟩)
  · rw [Except.ok.inj same] at isPdf
    contradiction
  · contradiction

theorem write_of_writeHtml {before : FileSystem} (wrote : report.writeHtml before path = .ok after) :
    before.write path (Utf8.encode report.html) = .ok after := by
  unfold writeHtml at wrote
  split at wrote
  · rename_i same
    rwa [← Except.ok.inj wrote]
  · contradiction

theorem writeHtml_eq_error {error : WriteError} (refused : report.writeHtml files path = .error error) :
    error.path = path ∧ files.write path (Utf8.encode report.html) = .error error.cause := by
  unfold writeHtml at refused
  split at refused
  · contradiction
  · rename_i cause answer
    cases refused
    exact ⟨rfl, answer⟩

/-- The ways through a write, with what each has done to the files. -/
inductive Answers (report : Report) (machine : Machine) (files : FileSystem) (target : OutputTarget)
    (command : Text) : Except WriteError Written → FileSystem → Prop where
  | page {after : FileSystem} (isHtml : target.format = .html)
      (wrote : files.write target.path (Utf8.encode report.html) = .ok after) :
      Answers report machine files target command
        (.ok { path := target.path, format := .html, degraded := none }) after
  | noPage {cause : FileError} (isHtml : target.format = .html)
      (refused : files.write target.path (Utf8.encode report.html) = .error cause) :
      Answers report machine files target command (.error { path := target.path, cause }) files
  | pdf {after : FileSystem} (isPdf : target.format = .pdf)
      (made : report.writePdf machine files command target.path = (.ok (), after)) :
      Answers report machine files target command (.ok (asPdf target)) after
  | instead {failure : PdfFailure} {next after : FileSystem} (isPdf : target.format = .pdf)
      (failed : report.writePdf machine files command target.path = (.error failure, next))
      (wrote : next.write target.htmlFallback (Utf8.encode (report.addNotice failure.notice).html) =
        .ok after) :
      Answers report machine files target command
        (.ok { path := target.htmlFallback, format := .html, degraded := some failure.notice }) after
  | nothing {failure : PdfFailure} {next : FileSystem} {cause : FileError} (isPdf : target.format = .pdf)
      (failed : report.writePdf machine files command target.path = (.error failure, next))
      (refused : next.write target.htmlFallback (Utf8.encode (report.addNotice failure.notice).html) =
        .error cause) :
      Answers report machine files target command (.error { path := target.htmlFallback, cause }) next

theorem write_answers (report : Report) (machine : Machine) (files : FileSystem) (target : OutputTarget)
    (command : Text) :
    report.Answers machine files target command (report.write machine files target command).1
      (report.write machine files target command).2 := by
  cases format : target.format with
  | html =>
      cases wrote : report.writeHtml files target.path with
      | error error =>
          obtain ⟨path, cause⟩ := error
          obtain ⟨rfl, refused⟩ := writeHtml_eq_error wrote
          simp only [write, format, wrote]
          exact .noPage format refused
      | ok after =>
          simp only [write, format, wrote]
          exact .page format (write_of_writeHtml wrote)
  | pdf =>
      cases attempted : report.writePdf machine files command target.path with
      | mk result next =>
          cases result with
          | ok _ =>
              rw [write_of_made format attempted]
              exact .pdf format attempted
          | error failure =>
              cases wrote : (report.addNotice failure.notice).writeHtml next target.htmlFallback with
              | error error =>
                  obtain ⟨path, cause⟩ := error
                  obtain ⟨rfl, refused⟩ := writeHtml_eq_error wrote
                  simp only [write, format, attempted, wrote]
                  exact .nothing format attempted refused
              | ok after =>
                  simp only [write, format, attempted, wrote]
                  exact .instead format attempted (write_of_writeHtml wrote)

/-- Only a PDF target whose conversion has come off gives a report that is a PDF. -/
theorem made_of_written (answer : report.write machine files target command = (.ok written, after))
    (isPdf : written.format = .pdf) :
    written = asPdf target ∧ report.writePdf machine files command target.path = (.ok (), after) := by
  have answers := report.write_answers machine files target command
  rw [answer] at answers
  cases answers with
  | page _ _ => contradiction
  | pdf _ made => exact ⟨rfl, made⟩
  | instead _ _ _ => contradiction

theorem Converts.isFile_before (converts : report.Converts machine files command path converter scratched outcome)
    (apart : files.Apart machine.scratchPath path) : scratched.isFile path = files.isFile path := by
  cases converts with
  | run parsed located scratch ended => exact FileSystem.isFile_write apart scratch

/-- A report is a PDF exactly after a run of its own that succeeds, if a file stands at the
target in the end. The run has made this file if none stood there before. A run that
succeeds and leaves the target as it was falls back to HTML exactly if there was no file:
an old one passes for its result. -/
theorem pdf_exact (report : Report) (command : Text) (isPdf : target.format = .pdf)
    (apart : files.Apart machine.scratchPath target.path) :
    (∀ written after, report.write machine files target command = (.ok written, after) →
      written.format = .pdf → written.path = target.path ∧ written.degraded = none ∧
        ∃ converter scratched outcome,
          report.Converts machine files command target.path converter scratched outcome ∧
          outcome.ending.isSuccess = true ∧ outcome.files.isFile target.path = true ∧
          (files.isFile target.path = false → scratched.isFile target.path = false)) ∧
    ∀ converter scratched outcome,
      report.Converts machine files command target.path converter scratched outcome →
      outcome.ending.isSuccess = true →
        (outcome.files.isFile target.path = false →
          FallsBack target (.noOutput converter.text target.path)
            (report.write machine files target command).1) ∧
        (outcome.files.find target.path = scratched.find target.path →
          (FallsBack target (.noOutput converter.text target.path)
              (report.write machine files target command).1 ↔
            files.isFile target.path = false)) := by
  constructor
  · intro written after answer format
    obtain ⟨rfl, made⟩ := made_of_written answer format
    obtain ⟨converter, scratched, outcome, converts⟩ := exists_converts made
    have judgement := converts.writePdf_eq
    rw [made, Prod.mk.injEq] at judgement
    obtain ⟨succeeded, present⟩ := judged_eq_ok_iff.mp judgement.1.symm
    refine ⟨rfl, rfl, converter, scratched, outcome, converts, succeeded, present, ?_⟩
    intro absent
    rw [converts.isFile_before apart, absent]
  · intro converter scratched outcome converts succeeded
    have judgement := converts.writePdf_eq
    have falls (absent : outcome.files.isFile target.path = false) :
        FallsBack target (.noOutput converter.text target.path)
          (report.write machine files target command).1 := by
      have missing : judged converter target.path outcome = .error (.noOutput converter.text target.path) := by
        simp only [judged, succeeded, absent, Bool.not_true, Bool.false_eq_true, if_false]
      rw [missing] at judgement
      exact write_of_failure isPdf judgement
    refine ⟨falls, fun untouched => ?_⟩
    -- The scratch file stands elsewhere, so the target is still as it was before the call.
    have same : outcome.files.isFile target.path = files.isFile target.path := by
      rw [← converts.isFile_before apart, FileSystem.isFile, FileSystem.isFile, untouched]
    constructor
    · intro fallsBack
      cases present : files.isFile target.path with
      | false => rfl
      | true =>
          have made : judged converter target.path outcome = .ok () :=
            judged_eq_ok_iff.mpr ⟨succeeded, same.trans present⟩
          rw [made] at judgement
          rw [write_of_made isPdf judgement] at fallsBack
          exact absurd fallsBack (not_fallsBack_of_pdf rfl)
    · intro absent
      exact falls (same.trans absent)

/-- A report on no commits. -/
def blank : Report where
  title := "History".toList
  base := { hash := List.replicate 40 'a', short := List.replicate 7 'a' }
  tip := { hash := List.replicate 40 'a', short := List.replicate 7 'a' }
  fragments := []
  notices := []
  generated := Instant.ofSeconds 0

/-- A working directory with nothing in it, and one program. -/
def bench : FileSystem where
  workingDirectory := ["work".toList]
  nodes := [
    (["work".toList], .directory), (["tmp".toList], .directory), (["bin".toList], .directory),
    (["bin".toList, "topdf".toList], .file 493 [])]

def pdfTarget : OutputTarget :=
  { path := "out.pdf".toList, format := .pdf }

/-- The bench with the PDF of an earlier report. -/
def benchWithOld : FileSystem :=
  bench.put ["work".toList, "out.pdf".toList] (.file 420 (Utf8.encode "old".toList))

/-- A machine whose programs do nothing, and end well. -/
def idleMachine : Machine where
  searchPath := some "/bin".toList
  programs := fun _ _ _ _ files => .ok { ending := .exited 0, output := [], errors := [], files }
  scratchPath := "/tmp/report.html".toList

/-- A machine whose programs write something to the last path that they get. -/
def writingMachine : Machine where
  searchPath := some "/bin".toList
  programs := fun _ _ arguments _ files =>
    match files.write (arguments.getLast?.getD []) (Utf8.encode "new".toList) with
    | .ok files => .ok { ending := .exited 0, output := [], errors := [], files }
    | .error _ => .ok { ending := .exited 1, output := [], errors := [], files }
  scratchPath := "/tmp/report.html".toList

/-- The PDF of an earlier report is taken for the result of a run that has not touched it. -/
theorem exists_stale_pdf :
    (blank.write idleMachine benchWithOld pdfTarget "topdf".toList).1 = .ok (asPdf pdfTarget) ∧
      (blank.write idleMachine benchWithOld pdfTarget "topdf".toList).2.read pdfTarget.path =
        .ok (Utf8.encode "old".toList) ∧
      ∃ converter scratched outcome,
        blank.Converts idleMachine benchWithOld "topdf".toList pdfTarget.path converter scratched outcome ∧
        outcome.ending.isSuccess = true ∧ outcome.files = scratched := by
  have made : (blank.writePdf idleMachine benchWithOld "topdf".toList pdfTarget.path).1 = .ok () := by
    decide +kernel
  obtain ⟨converter, scratched, outcome, converts⟩ := exists_converts (Prod.ext made rfl)
  refine ⟨by decide +kernel, by decide +kernel, converter, scratched, outcome, converts, ?_⟩
  cases converts with
  | run _ _ _ ended =>
      cases ended
      exact ⟨rfl, rfl⟩

/-- A first PDF is the work of the run that is judged. -/
theorem pdf_exact_of_first :
    pdfTarget.format = .pdf ∧ bench.Apart writingMachine.scratchPath pdfTarget.path ∧
      bench.isFile pdfTarget.path = false ∧
      (blank.write writingMachine bench pdfTarget "topdf".toList).1 = .ok (asPdf pdfTarget) ∧
      ∃ converter scratched outcome,
        blank.Converts writingMachine bench "topdf".toList pdfTarget.path converter scratched outcome ∧
        outcome.ending.isSuccess = true ∧ outcome.files.isFile pdfTarget.path = true ∧
        scratched.isFile pdfTarget.path = false := by
  have apart : bench.Apart writingMachine.scratchPath pdfTarget.path := by
    have scratch : bench.locate writingMachine.scratchPath = .ok ["tmp".toList, "report.html".toList] := by
      decide +kernel
    have place : bench.locate pdfTarget.path = .ok ["work".toList, "out.pdf".toList] := by decide +kernel
    intro location located
    rw [scratch] at located
    cases located
    rw [place]
    decide +kernel
  have absent : bench.isFile pdfTarget.path = false := by decide +kernel
  have answer : (blank.write writingMachine bench pdfTarget "topdf".toList).1 = .ok (asPdf pdfTarget) := by
    decide +kernel
  obtain ⟨_, _, converter, scratched, outcome, converts, succeeded, present, before⟩ :=
    (pdf_exact blank "topdf".toList rfl apart).1 _ _ (Prod.ext answer rfl) rfl
  exact ⟨rfl, apart, absent, answer, converter, scratched, outcome, converts, succeeded, present,
    before absent⟩

end Report

end CuratedHistory
