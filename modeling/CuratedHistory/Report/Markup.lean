import CuratedHistory.History.Commit
import CuratedHistory.Programs.Converter
import CuratedHistory.Report.DiffLine
import CuratedHistory.Report.Html

namespace CuratedHistory

/-! Diffs as HTML: escaped here, one element for each line, or colored and passed
through a converter. -/

inductive MarkupError where
  | notStarted (command : Text) (cause : FileError)
  | failed (command : Text) (ending : Ending) (errors : Text)
  | notText (command : Text)
  deriving DecidableEq, Repr

def MarkupError.message : MarkupError → Text
  | .notStarted command cause => "Failed to run ".toList ++ command ++ ": ".toList ++ cause.message
  | .failed command ending errors =>
      command ++ " exited with ".toList ++ ending.text ++ ": ".toList ++ errors
  | .notText command => command ++ " produced non-UTF-8 output".toList

/-- A way to turn diffs into HTML, under a short name. -/
structure Markup where
  name : Text
  convert : Text → Except MarkupError Html
  /-- The HTML of a whole patch, which may depend on its counts as well as on its text. -/
  convertPatch : Patch → Except MarkupError Html := fun patch => convert patch.text

namespace Markup

def ofLine (entry : DiffLineKind × Text) : List Html :=
  [Html.classed "span" entry.1.className [.text entry.2], Html.newline]

def escapedHtml (text : Text) : Html :=
  Html.classed "pre" "diff" ((classifyLines text).flatMap ofLine)

def escaped : Markup where
  name := "escaped".toList
  convert text := .ok (escapedHtml text)

def convertWith (machine : Machine) (files : FileSystem) (converter : Converter)
    (program text : Text) : Except MarkupError Html :=
  match machine.programs program converter.program converter.arguments
      (Utf8.encode (colorize text)) files with
  | .error cause => .error (.notStarted converter.text cause)
  | .ok outcome =>
      if !outcome.ending.isSuccess then
        .error (.failed converter.text outcome.ending
          (Text.trim (Utf8.decodeLenient outcome.errors)))
      else
        match Utf8.decode? outcome.output with
        | none => .error (.notText converter.text)
        | some body => .ok (Html.classed "pre" "diff" [.markup body])

/-- The markup in use, and a notice if it is not the one asked for. -/
structure Selection where
  markup : Markup
  notice : Option Text

def missingNotice (converter : Converter) : Text :=
  "Diff converter '".toList ++ converter.program ++
    "' was not found; diffs are shown without its coloring.".toList

/-- The converter of a command if one is given and found, else the escaped markup. -/
def select (machine : Machine) (files : FileSystem) (command : Option Text) : Selection :=
  match command.bind Converter.ofCommand? with
  | none => { markup := escaped, notice := none }
  | some converter =>
      match converter.locate? machine.searchPath files with
      | some program =>
          { markup :=
              { name := converter.program
                convert := convertWith machine files converter program }
            notice := none }
      | none => { markup := escaped, notice := some (missingNotice converter) }

end Markup

end CuratedHistory
