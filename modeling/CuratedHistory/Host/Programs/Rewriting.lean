import CuratedHistory.Host.Programs.ScriptRun

namespace CuratedHistory.Host.Programs

/-! Rewriting files with a script. -/

namespace Rewriting

def forms : List OptionForm :=
  [.both 'n' "quiet" .absent, .nameOnly "silent" .absent, .both 'e' "expression" .required,
    .both 'f' "file" .required, .both 'E' "regexp-extended" .absent, .letterOnly 'r' .absent,
    .both 'i' "in-place" .optional, .both 's' "separate" .absent,
    .both 'z' "null-data" .absent, .both 'u' "unbuffered" .absent,
    .nameOnly "posix" .absent, .nameOnly "debug" .absent]

def linesWith (ending : Char) (content : Octets) : List Octets :=
  let pieces := Text.pieces ending content
  (pieces.dropLast.map (· ++ [ending])) ++
    match pieces.getLast? with
    | some [] | none => []
    | some last => [last]

/-- The pieces of the script from the options, where one ends in a backslash together
with the next one. -/
def scriptText (console : Console) (options : List (String × Octets)) : Except Octets Octets := do
  let pieces ← options.filterMapM fun option =>
    match option.1 with
    | "expression" => .ok (some option.2)
    | "file" =>
        match (console.readOperand option.2).1 with
        | .ok content => .ok (some (withoutLineFeed content))
        | .error cause =>
            .error ("couldn't open file ".toList ++ option.2 ++ ": ".toList ++ cause.plainMessage)
    | _ => .ok none
  return Text.join ['\n'] pieces

def readAll (console : Console) (name : Octets) (paths : List Octets) :
    List (Octets × Octets) × Console × Nat :=
  paths.foldl
    (fun (found, console, status) path =>
      match console.readOperand path with
      | (.ok content, console) => (found ++ [(path, content)], console, status)
      | (.error cause, console) =>
          if cause = .isDirectory then
            (found, console.complain (name ++ ": read error on ".toList ++ path ++ ": ".toList ++
              cause.plainMessage), max status 4)
          else
            (found, console.complain (name ++ ": can't read ".toList ++ path ++ ": ".toList ++
              cause.plainMessage), max status 2))
    ([], console, 0)

def store (console : Console) (files : List (Octets × Octets)) : Console :=
  files.foldl
    (fun console entry =>
      match console.writeFile entry.1 entry.2 with
      | .ok console => console
      | .error _ => console)
    console

/-- The expressions of a command in the order in which they are used. -/
def regexes (command : ScriptCommand) : List (Option Regex) :=
  let ofAddress : LineAddress → List (Option Regex)
    | .fitting regex => [regex]
    | _ => []
  (command.choice.first.map ofAddress).getD [] ++
    (match command.choice.final with
      | some (.address address) => ofAddress address
      | _ => []) ++
    match command.action with
    | .substitute substitution => [substitution.regex]
    | _ => []

/-- Whether the last expression used is asked for before there is any. -/
def lacksRegex (commands : List ScriptCommand) : Bool :=
  match (commands.flatMap regexes).head? with
  | some none => true
  | _ => false

/-- The label of a jump that the script does not have. -/
def lostLabel? (commands : List ScriptCommand) : Option Octets :=
  let labels := commands.filterMap fun command =>
    match command.action with
    | .label label => some label
    | _ => none
  commands.findSome? fun command =>
    match command.action with
    | .branch label | .branchIf _ label =>
        if label = [] ∨ labels.contains label then none else some label
    | _ => none

def faultText (options : List (String × Octets)) (script : Octets) (fault : ScriptFault) :
    Octets × Nat :=
  if fault.text = RegexFault.classOutside.message.toList then (fault.text, 4)
  else
    match options.filter fun option => option.1 == "expression" || option.1 == "file" with
    | [("file", path)] =>
        let line := (script.take (fault.place - 1)).count '\n' + 1
        ("file ".toList ++ path ++ " line ".toList ++ Decimal.digits line ++ ": ".toList ++
          fault.text, 1)
    | _ =>
        ("-e expression #1, char ".toList ++ Decimal.digits fault.place ++ ": ".toList ++
          fault.text, 1)

/-- How a script is run on contents. -/
structure Manner where
  commands : List ScriptCommand
  silent : Bool
  ending : Char

def Manner.on (manner : Manner) (console : Console) (name : Octets) (content : List Octets) :
    Nat × Octets × List (Octets × Octets) :=
  let fileText (path : Octets) : Octets :=
    match console.readFile path with
    | .ok content => content
    | .error _ => []
  ScriptRun.onLines
    { commands := manner.commands, silent := manner.silent, ending := manner.ending, name, fileText }
    content

/-- Rewrites a file where it stands, and keeps what it held under another name if a suffix
is given. -/
def Manner.inPlace (manner : Manner) (name suffix path : Octets) (console : Console) :
    Console × Nat :=
  match console.readFile path with
  | .error cause =>
      if cause = .isDirectory then
        console.fail name ("couldn't edit ".toList ++ path ++ ": not a regular file".toList) 4
      else
        console.fail name ("can't read ".toList ++ path ++ ": ".toList ++ cause.plainMessage) 2
  | .ok content =>
      let (status, printed, files) := manner.on console path (linesWith manner.ending content)
      let copies :=
        if suffix = [] then []
        else
          [(if suffix.contains '*' then suffix.flatMap fun c => if c = '*' then path else [c]
            else path ++ suffix, content)]
      (store console (files ++ copies ++ [(path, printed)]), status)

/-- Rewrites contents one after the other as if they were one, or each for itself. -/
def Manner.toOutput (manner : Manner) (separate : Bool) (contents : List (Octets × Octets))
    (console : Console) : Console × Nat :=
  let finish (console : Console) (found : Nat × Octets × List (Octets × Octets)) :
      Console × Nat :=
    ((store console found.2.2).print found.2.1, found.1)
  if separate then
    console.forEach contents fun entry console =>
      finish console (manner.on console entry.1 (linesWith manner.ending entry.2))
  else
    let inner := contents.dropLast.flatMap fun entry =>
      (linesWith manner.ending entry.2).map fun line =>
        if line.getLast? = some manner.ending then line else line ++ [manner.ending]
    let last := ((contents.getLast?).map fun entry => linesWith manner.ending entry.2).getD []
    finish console
      (manner.on console ((contents.head?.map Prod.fst).getD ['-']) (inner ++ last))

def usage (name : Octets) : Octets :=
  "Usage: ".toList ++ name ++
    " [OPTION]... \x7bscript-only-if-no-other-script\x7d [input-file]...".toList

end Rewriting

/-- Rewrites files, or the input. -/
def sed : Program := fun name words console =>
  let scan := OptionScan.ofWords Rewriting.forms true words
  match scan.given with
  | .error text =>
      ((console.complain (name ++ ": ".toList ++ text)).complain (Rewriting.usage name), 1)
  | .ok options =>
      let has (key : String) : Bool := options.any (·.1 == key)
      let asked := has "expression" || has "file"
      let form : RegexForm := if has "regexp-extended" || has "r" then .extended else .basic
      match (if asked then Rewriting.scriptText console options
        else .ok (scan.operands.headD [])) with
      | .error text => console.fail name text 1
      | .ok script =>
          if !asked ∧ scan.operands = [] then (console.complain (Rewriting.usage name), 1)
          else
            match Script.read form script with
            | .error fault =>
                let (text, status) := Rewriting.faultText options script fault
                console.fail name text status
            | .ok commands =>
                let paths := if asked then scan.operands else scan.operands.tail
                let manner : Rewriting.Manner := {
                  commands
                  silent := has "quiet" || has "silent" || "#n\n".toList.isPrefixOf script ||
                    script = "#n".toList
                  ending := if has "null-data" then '\x00' else '\n' }
                match Rewriting.lostLabel? commands with
                | some label =>
                    console.fail name ("can't find label for jump to \x60".toList ++ label ++
                      ['\'']) 4
                | none =>
                    if Rewriting.lacksRegex commands then
                      console.fail name
                        "-e expression #1, char 0: no previous regular expression".toList 1
                    else if has "in-place" then
                      let suffix := ((options.reverse.find? (·.1 == "in-place")).map
                        Prod.snd).getD []
                      if paths = [] then console.fail name "no input files".toList 4
                      else console.forEach paths (manner.inPlace name suffix)
                    else
                      let (contents, console, status) :=
                        Rewriting.readAll console name (if paths = [] then [['-']] else paths)
                      let (console, found) :=
                        manner.toOutput (has "separate") contents console
                      (console, max status found)

end CuratedHistory.Host.Programs
