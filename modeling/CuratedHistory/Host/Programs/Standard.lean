import CuratedHistory.Host.Programs.Condition
import CuratedHistory.Host.Programs.Copying
import CuratedHistory.Host.Programs.Cutting
import CuratedHistory.Host.Programs.Directory
import CuratedHistory.Host.Programs.Filing
import CuratedHistory.Host.Programs.Lines
import CuratedHistory.Host.Programs.Ordering
import CuratedHistory.Host.Programs.Permission
import CuratedHistory.Host.Programs.Printing
import CuratedHistory.Host.Programs.Reckoning
import CuratedHistory.Host.Programs.Rewriting
import CuratedHistory.Host.Programs.Searching
import CuratedHistory.Host.Programs.Translating
import CuratedHistory.Host.Shell.Session

namespace CuratedHistory.Host.Programs

/-! The small programs that are usually at hand, by their names. -/

def leadingVariables (words : List Octets) : List (Octets × Octets) × List Octets :=
  let isSetting (word : Octets) : Bool := word.contains '='
  ((words.takeWhile isSetting).map fun word =>
    let (name, value) := Text.splitAtFirst (· == '=') word
    (name, value.tail), words.dropWhile isSetting)

/-- The path of a program that is named without a separator. -/
def onSearchPath (console : Console) (name : Octets) : Octets :=
  if name.contains '/' then name
  else
    let paths := (Text.pieces ':' ((console.held? "PATH").getD Shell.usualPath)).map
      fun directory => if directory = [] then name else Filing.inside directory name
    (paths.find? fun path => console.files.isExecutable (Octets.toText path)).getD name

/-- Starts a program with some variables set, or lists the variables. -/
def env (launch : Launcher) : Program := fun name words console =>
  let scan := OptionScan.ofWords
    [.both 'i' "ignore-environment" .absent, .both 'u' "unset" .required,
      .both '0' "null" .absent, .both 'C' "chdir" .required, .both 'S' "split-string" .required]
    false words
  match scan.given with
  | .error text => console.failUsage name text 125
  | .ok options =>
      let splits := (options.filter (·.1 == "split-string")).flatMap fun option =>
        Text.words option.2
      let (set, rest) := leadingVariables (splits ++ scan.operands)
      let kept := if options.any (·.1 == "ignore-environment") then [] else console.bindings
      let unset := (options.filter (·.1 == "unset")).map Prod.snd
      let bindings := (kept.filter fun entry =>
        !unset.contains entry.1 && !(set.any (·.1 == entry.1))) ++ set
      match rest with
      | [] =>
          (console.print (bindings.flatMap fun entry =>
            entry.1 ++ '=' :: entry.2 ++ ['\n']), 0)
      | program :: arguments =>
          match launch (onSearchPath console program) program arguments
              { console with bindings } with
          | .ok (after, status) => ({ after with bindings := console.bindings }, status)
          | .error cause =>
              let console := console.complain (name ++ ": ".toList ++ Quoting.between program ++
                ": ".toList ++ cause.plainMessage)
              let console :=
                if cause = .notFound ∧ program.contains ' ' then
                  console.complain (name ++
                    ": use -[v]S to pass options in shebang lines".toList)
                else console
              (console, if cause = .notFound then 127 else 126)

/-- Waits, which takes no time here. -/
def sleep : Program := fun name words console =>
  let isInterval (word : Octets) : Bool :=
    let body := if word.getLast?.any ("smhd".toList.contains ·) then word.dropLast else word
    body ≠ [] && body.all fun c => c.isDigit || c = '.'
  match words with
  | [] => console.failUsage name "missing operand".toList 1
  | words =>
      match words.find? fun word => !isInterval word with
      | some word =>
          console.failUsage name ("invalid time interval ".toList ++ Quoting.between word) 1
      | none => (console, 0)

def which : Program := fun _ words console =>
  if words = [] then (console, 1)
  else console.forEach words fun word console =>
    let path := onSearchPath console word
    if console.files.isExecutable (Octets.toText path) then (console.print (path ++ ['\n']), 0)
    else (console, 1)

def workingDirectory : Program := fun _ _ console =>
  (console.print (Shell.Builtin.pathOf console.files.workingDirectory ++ ['\n']), 0)

/-- Where a program takes a word as a call for help. -/
inductive HelpPlace where
  | anywhere
  | first
  | alone
  | nowhere
  deriving DecidableEq, Repr

def isHelpWord (word : Octets) : Bool :=
  word = "--help".toList || word = "--version".toList

/-- A program that tells how it is used when it is asked for that. -/
def withHelp (place : HelpPlace) (program : Program) : Program := fun name words console =>
  let asked :=
    match place with
    | .anywhere => (words.takeWhile (· != ['-', '-'])).any isHelpWord
    | .first => words.head?.any isHelpWord
    | .alone => words.length = 1 && words.any isHelpWord
    | .nowhere => false
  if asked then (console.print ("Usage: ".toList ++ name ++ " [OPTION]...\n".toList), 0)
  else program name words console

/-- The programs, given how they start others. -/
def standard (launch : Launcher) : List (String × Program) :=
  let helped (place : HelpPlace) (entries : List (String × Program)) : List (String × Program) :=
    entries.map fun entry => (entry.1, withHelp place entry.2)
  helped .alone
    [("[", test), ("echo", echo), ("expr", expr), ("printf", printf),
      ("pwd", workingDirectory), ("true", fun _ _ console => (console, 0))] ++
    helped .first [("env", env launch)] ++
    helped .nowhere
      [("bash", Shell.program .extended launch), ("dash", Shell.program .plain launch),
        ("false", fun _ _ console => (console, 1)), ("sh", Shell.program .plain launch),
        ("test", test), ("which", which)] ++
    helped .anywhere
      [("basename", basename), ("cat", cat), ("chmod", chmod), ("cmp", cmp), ("cp", cp),
        ("cut", cut), ("dirname", dirname), ("egrep", grepIn (.regex .extended)),
        ("fgrep", grepIn .fixed), ("grep", grep), ("head", head), ("ln", ln), ("ls", ls),
        ("mkdir", mkdir), ("mktemp", mktemp), ("mv", mv), ("rev", rev), ("rm", rm),
        ("rmdir", rmdir), ("sed", sed), ("seq", seq), ("sleep", sleep), ("sort", sort),
        ("tac", tac), ("tail", tail), ("tee", tee), ("touch", touch), ("tr", tr),
        ("uniq", uniq), ("wc", wc)]

def names : List Text :=
  (standard fun _ _ _ _ => .error .badProgram).map (·.1.toList)

end CuratedHistory.Host.Programs
