import CuratedHistory.Report.Document
import CuratedHistory.Report.Target

namespace CuratedHistory

/-! Reports as files. A PDF is made by a converter from the HTML in a scratch file.
Where that fails, the HTML is written beside the place of the PDF, with a notice. -/

structure WriteError where
  path : Text
  cause : FileError
  deriving DecidableEq, Repr

def WriteError.message (error : WriteError) : Text :=
  "Failed to write ".toList ++ error.path ++ ": ".toList ++ error.cause.message

/-- Why no PDF was made. -/
inductive PdfFailure where
  | noConverter
  | notFound (program : Text)
  | noScratchFile (cause : FileError)
  | notStarted (command : Text) (cause : FileError)
  | failed (command : Text) (ending : Ending) (errors : Text)
  | noOutput (command path : Text)
  deriving DecidableEq, Repr

def PdfFailure.message : PdfFailure → Text
  | .noConverter => "no PDF converter is configured".toList
  | .notFound program => "PDF converter '".toList ++ program ++ "' was not found".toList
  | .noScratchFile cause =>
      "could not create intermediate HTML (".toList ++ cause.message ++ ")".toList
  | .notStarted command cause =>
      "PDF converter '".toList ++ command ++ "' could not be run (".toList ++ cause.message ++
        ")".toList
  | .failed command ending errors =>
      "PDF converter '".toList ++ command ++ "' failed with ".toList ++ ending.text ++
        ": ".toList ++ errors
  | .noOutput command path =>
      "PDF converter '".toList ++ command ++ "' did not produce ".toList ++ path

/-- The notice of a report that is HTML because no PDF could be made. -/
def PdfFailure.notice (failure : PdfFailure) : Text :=
  failure.message ++ "; this report was written as HTML instead of PDF.".toList

/-- Where a report was written, and the notice if that is not what was asked for. -/
structure Written where
  path : Text
  format : OutputFormat
  degraded : Option Text
  deriving DecidableEq, Repr

namespace Report

def writeHtml (report : Report) (files : FileSystem) (path : Text) :
    Except WriteError FileSystem :=
  match files.write path (Utf8.encode report.html) with
  | .ok files => .ok files
  | .error cause => .error { path, cause }

/-- The files without the scratch file. -/
def withoutScratch (files : FileSystem) (path : Text) : FileSystem :=
  match files.locate path with
  | .ok location => files.remove location
  | .error _ => files

def convert (report : Report) (machine : Machine) (files : FileSystem) (converter : Converter)
    (program path : Text) : Except PdfFailure Unit × FileSystem :=
  match files.write machine.scratchPath (Utf8.encode report.html) with
  | .error cause => (.error (.noScratchFile cause), files)
  | .ok scratched =>
      match machine.programs program converter.program
          (converter.arguments ++ [machine.scratchPath, path]) [] scratched with
      | .error cause => (.error (.notStarted converter.text cause), files)
      | .ok outcome =>
          let after := withoutScratch outcome.files machine.scratchPath
          if !outcome.ending.isSuccess then
            (.error (.failed converter.text outcome.ending
              (Text.trim (Utf8.decodeLenient outcome.errors))), after)
          else if outcome.files.isFile path then (.ok (), after)
          else (.error (.noOutput converter.text path), after)

def writePdf (report : Report) (machine : Machine) (files : FileSystem) (command path : Text) :
    Except PdfFailure Unit × FileSystem :=
  match Converter.ofCommand? command with
  | none => (.error .noConverter, files)
  | some converter =>
      match converter.locate? machine.searchPath files with
      | none => (.error (.notFound converter.program), files)
      | some program => report.convert machine files converter program path

/-- Writes the report to a target, with a command for PDF files. -/
def write (report : Report) (machine : Machine) (files : FileSystem) (target : OutputTarget)
    (command : Text) : Except WriteError Written × FileSystem :=
  match target.format with
  | .html =>
      match report.writeHtml files target.path with
      | .ok after => (.ok { path := target.path, format := .html, degraded := none }, after)
      | .error error => (.error error, files)
  | .pdf =>
      match report.writePdf machine files command target.path with
      | (.ok (), after) =>
          (.ok { path := target.path, format := .pdf, degraded := none }, after)
      | (.error failure, after) =>
          match (report.addNotice failure.notice).writeHtml after target.htmlFallback with
          | .ok last =>
              (.ok { path := target.htmlFallback, format := .html
                     degraded := some failure.notice }, last)
          | .error error => (.error error, after)

end Report

end CuratedHistory
