import CuratedHistory.Files.FileSystem
import CuratedHistory.Files.Path
import CuratedHistory.Programs.Ending

namespace CuratedHistory

/-! Converters are outside programs, given as a command line. A program is looked
for the way a shell does it, before anything is started. -/

/-- What a program that has ended leaves behind. -/
structure Outcome where
  ending : Ending
  output : Bytes
  errors : Bytes
  files : FileSystem
  deriving Repr

/-- Outside programs: given the path of one, the name that it is called by, its
arguments, its input and the files, they fail to start or end with an outcome. -/
abbrev Programs :=
  Text → Text → List Text → Bytes → FileSystem → Except FileError Outcome

/-- What surrounds a run: where programs are looked for, what they do, and a path
at which no file stands. -/
structure Machine where
  searchPath : Option Text
  programs : Programs
  scratchPath : Text

structure Converter where
  program : Text
  arguments : List Text
  deriving DecidableEq, Repr

namespace Converter

/-- The words of a command line, the first one the program; none if it is blank. -/
def ofCommand? (command : Text) : Option Converter :=
  match Text.words command with
  | [] => none
  | program :: arguments => some { program, arguments }

def text (converter : Converter) : Text :=
  Text.join [' '] (converter.program :: converter.arguments)

/-- The path of the program. One that is named with a separator is taken as it
is, any other is looked for in each directory of the search path. -/
def locate? (converter : Converter) (searchPath : Option Text) (files : FileSystem) :
    Option Text :=
  if converter.program.contains '/' then
    if files.isExecutable converter.program then some converter.program else none
  else
    searchPath.bind fun paths =>
      ((Text.pieces ':' paths).map fun directory =>
        Path.join directory converter.program).find? files.isExecutable

end Converter

end CuratedHistory
