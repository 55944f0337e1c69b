import CuratedHistory.Host.Programs.Condition
import CuratedHistory.Host.Programs.Filing
import CuratedHistory.Host.Programs.Printing
import CuratedHistory.Host.Shell.Expansion

namespace CuratedHistory.Host.Shell

/-! The commands that a shell does itself and that run no others. -/

/-- A command of the shell as a function of its arguments; it gives its status. -/
abbrev Builtin := List Octets → Run Nat

namespace Builtin

/-- The number that digits write, and nothing else. -/
def number (word : Octets) : Run Nat :=
  match Decimal.read? word with
  | some n => return n
  | none => Run.fail ("Illegal number: ".toList ++ word)

def echo : Builtin := fun words => do
  match (← get).dialect with
  | .plain => Run.print (Programs.echoPlain words)
  | .extended => Run.print (Programs.echoExtended words)
  return 0

def printf : Builtin := fun words => do
  let guarded : Bool := words.head? = some ['-', '-']
  match if guarded then words.tail else words with
  | [] => Run.fail "usage: printf format [arg ...]".toList
  | layout :: arguments =>
      match guarded, layout with
      | false, '-' :: c :: _ => Run.fail ("Illegal option -".toList ++ [c])
      | _, _ =>
          let style : Programs.EscapeStyle :=
            match (← get).dialect with
            | .plain => .plain
            | .extended => .extended
          let printed := Programs.Printed.ofLayout style layout arguments
          printed.warnings.forM Run.warn
          Run.print printed.output
          match printed.failure with
          | some text => Run.fail text
          | none => return if printed.warnings = [] then 0 else 1

def test (name : Octets) : Builtin := fun words => do
  let state ← get
  match Programs.Condition.decides state.console.files (state.dialect = .extended) name words with
  | .ok true => return 0
  | .ok false => return 1
  | .error text => Run.fail text

def pathOf (location : Location) : Octets :=
  if location = [] then ['/'] else location.flatMap fun name => '/' :: Octets.ofText name

def changeDirectory : Builtin := fun words => do
  let words := words.dropWhile fun word =>
    word = "-L".toList || word = "-P".toList || word = "--".toList
  let state ← get
  let here := pathOf state.console.files.workingDirectory
  let target? :=
    match words with
    | [] => state.value? "HOME".toList
    | ['-'] :: _ => some ((state.value? "OLDPWD".toList).getD here)
    | target :: _ => some target
  match target? with
  | none =>
      match state.dialect with
      | .plain => return 0
      | .extended => Run.fail "HOME not set".toList
  | some target =>
      let target := if target = [] then ['.'] else target
      match state.console.files.locate (Octets.toText target) with
      | .ok location =>
          if state.console.files.node? location == some .directory then
            let files := { state.console.files with workingDirectory := location }
            set ({ state with console := { state.console with files } }.setValue
              "OLDPWD".toList here |>.setValue "PWD".toList (pathOf location))
            if words.head? = some ['-'] then Run.print (pathOf location ++ ['\n'])
            return 0
          else Run.fail ("can't cd to ".toList ++ target)
      | .error _ => Run.fail ("can't cd to ".toList ++ target)

def workingDirectory : Builtin := fun _ => do
  Run.print (pathOf (← get).console.files.workingDirectory ++ ['\n'])
  return 0

def quoted (value : Octets) : Octets :=
  '\'' :: value.flatMap (fun c => if c = '\'' then "'\"'\"'".toList else [c]) ++ ['\'']

def listing (command : String) (holds : Variable → Bool) : Run Unit := do
  let entries := ((← get).bindings.filter fun entry => holds entry.2).mergeSort
    fun first second => Text.atMost first.1 second.1
  entries.forM fun entry =>
    Run.print (command.toList ++ (if command = "" then [] else [' ']) ++ entry.1 ++
      (match entry.2.value with
        | some value => '=' :: quoted value
        | none => []) ++ ['\n'])

/-- Changes how variables are held, and sets those that come with a value. -/
def declare (command : String) (holds : Variable → Bool) (mark : Variable → Variable) :
    Builtin := fun words => do
  let words := if words.head? = some ['-', '-'] then words.tail else words
  match words with
  | [] | [['-', 'p']] =>
      listing command holds
      return 0
  | words =>
      words.forM fun word => do
        let (name, value) := Text.splitAtFirst (· == '=') word
        if !isName name then Run.fail (name ++ ": bad variable name".toList)
        else
          match value with
          | _ :: value => Run.assign name value
          | [] => pure ()
          modify fun state =>
            let held := (state.held? name).getD
              { value := none, exported := false, readOnly := false }
            state.setVariable name (mark held)
      return 0

def exports : Builtin :=
  declare "export" (·.exported) fun held => { held with exported := true }

def readOnly : Builtin :=
  declare "readonly" (·.readOnly) fun held => { held with readOnly := true }

def unset : Builtin := fun words => do
  let functions := words.head? = some ['-', 'f']
  let names := if functions ∨ words.head? = some ['-', 'v'] then words.tail else words
  names.forM fun name => do
    let state ← get
    if !functions ∧ !isName name then Run.fail (name ++ ": bad variable name".toList)
    else if functions then
      set { state with functions := state.functions.filter (·.1 != name) }
    else if (state.held? name).any (·.readOnly) then
      Run.fail (name ++ ": is read only".toList)
    else set (state.removeVariable name)
  return 0

def localize : Builtin := fun words => do
  match (← get).locals with
  | [] => Run.fail "not in a function".toList
  | _ :: _ =>
      words.forM fun word => do
        let (name, value) := Text.splitAtFirst (· == '=') word
        modify fun state =>
          match state.locals with
          | frame :: frames =>
              { state with locals := ((name, state.held? name) :: frame) :: frames }
          | [] => state
        match value with
        | _ :: value => Run.assign name value
        | [] => pure ()
      return 0

def shift : Builtin := fun words => do
  let count ←
    match words with
    | [] => pure 1
    | word :: _ => number word
  let state ← get
  if state.parameters.length < count then Run.fail "can't shift that many".toList
  else
    set { state with parameters := state.parameters.drop count }
    return 0

def optionNames : List (Char × String) :=
  [('e', "errexit"), ('f', "noglob"), ('I', "ignoreeof"), ('i', "interactive"),
    ('m', "monitor"), ('n', "noexec"), ('s', "stdin"), ('x', "xtrace"), ('v', "verbose"),
    ('V', "vi"), ('E', "emacs"), ('C', "noclobber"), ('a', "allexport"), ('b', "notify"),
    ('u', "nounset")]

def setOption (on : Bool) (letter : Char) : Run Unit := do
  if (optionNames.lookup letter).isSome then
    modify fun state =>
      let others := state.options.filter (· != letter)
      { state with options := if on then letter :: others else others }
  else Run.fail ("Illegal option -".toList ++ [letter])

def setNamedOption (on : Bool) (name : Octets) : Run Unit := do
  match optionNames.find? (·.2.toList == name) with
  | some entry => setOption on entry.1
  | none =>
      if name = "pipefail".toList ∧ (← get).dialect = .extended then
        modify fun state =>
          let others := state.options.filter (· != 'P')
          { state with options := if on then 'P' :: others else others }
      else Run.fail ("Illegal option -o ".toList ++ name)

/-- Lists the options with how they are set, or as commands that set them. -/
def showOptions (asTable : Bool) : Run Unit := do
  let state ← get
  if asTable then Run.print "Current option settings\n".toList
  let entries := optionNames.map (fun entry => (entry.2.toList, state.hasOption entry.1)) ++
    ["privileged", "nolog", "debug"].map fun name => (name.toList, false)
  entries.forM fun entry =>
    let on := entry.2
    Run.print ((if asTable then entry.1.rightpad 16 ' ' ++ (if on then "on" else "off").toList
      else "set ".toList ++ (if on then ['-'] else ['+']) ++ "o ".toList ++ entry.1) ++ ['\n'])

/-- Sets the options in letters, one of which takes its name from the words after it. -/
def setLetters (on : Bool) : Octets → List Octets → Run (List Octets)
  | [], words => return words
  | 'o' :: letters, words => do
      match words with
      | [] =>
          showOptions on
          setLetters on letters []
      | name :: rest =>
          setNamedOption on name
          setLetters on letters rest
  | letter :: letters, words => do
      setOption on letter
      setLetters on letters words

/-- Sets options from words; the words that are left become the parameters, unless there
are none. The number bounds the words. -/
def setWords : Nat → List Octets → Run Unit
  | 0, _ => return
  | n + 1, words => do
      match words with
      | [] => return
      | ['-'] :: rest =>
          modify fun state => { state with
            options := state.options.filter fun letter => letter != 'x' && letter != 'v' }
          if rest ≠ [] then modify fun state => { state with parameters := rest }
      | ['-', '-'] :: rest => modify fun state => { state with parameters := rest }
      | ('-' :: letters) :: rest => setWords n (← setLetters true letters rest)
      | ('+' :: letters) :: rest => setWords n (← setLetters false letters rest)
      | words => modify fun state => { state with parameters := words }

def setting : Builtin := fun words => do
  if words = [] then listing "" (·.value.isSome)
  else setWords (words.length + 1) words
  return 0

/-- A line of input with its backslashes resolved: a quoted octet does not split. -/
def readGlyphs (raw : Bool) : Octets → List Glyph × Nat × Bool
  | [] => ([], 0, false)
  | '\n' :: _ => ([], 1, true)
  | '\\' :: c :: rest =>
      if raw then
        let (glyphs, count, ended) := readGlyphs raw (c :: rest)
        ({ octet := '\\', quoted := false } :: glyphs, count + 1, ended)
      else
        let (glyphs, count, ended) := readGlyphs raw rest
        if c = '\n' then (glyphs, count + 2, ended)
        else ({ octet := c, quoted := true } :: glyphs, count + 2, ended)
  | c :: rest =>
      let (glyphs, count, ended) := readGlyphs raw rest
      if c = '\\' ∧ !raw then (glyphs, count + 1, ended)
      else ({ octet := c, quoted := false } :: glyphs, count + 1, ended)

def isSeparator (separators : Octets) (glyph : Glyph) : Bool :=
  !glyph.quoted && separators.contains glyph.octet

def isBlankSeparator (separators : Octets) (glyph : Glyph) : Bool :=
  isSeparator separators glyph && " \t\n".toList.contains glyph.octet

/-- The first field of a line, and the line after it. -/
def takeField (separators : Octets) (line : List Glyph) : List Glyph × List Glyph :=
  let field := line.takeWhile fun glyph => !isSeparator separators glyph
  let rest := (line.drop field.length).dropWhile (isBlankSeparator separators)
  match rest with
  | glyph :: after =>
      if isSeparator separators glyph then
        (field, after.dropWhile (isBlankSeparator separators))
      else (field, rest)
  | [] => (field, [])

/-- What is left of a line for the last variable: without the separators at its end, of
which one that is not blank stays if it is not the only one. -/
def lastField (separators : Octets) (line : List Glyph) : List Glyph :=
  let trimmed := (line.reverse.dropWhile (isBlankSeparator separators)).reverse
  let (field, rest) := takeField separators trimmed
  if rest.isEmpty then field else trimmed

def fieldsFor (separators : Octets) : List Octets → List Glyph → List (Octets × Octets)
  | [], _ => []
  | [name], line => [(name, Glyph.octets (lastField separators line))]
  | name :: names, line =>
      let (field, rest) := takeField separators line
      (name, Glyph.octets field) :: fieldsFor separators names rest

def readLine : Builtin := fun words => do
  let scan := Programs.OptionScan.ofWords [.letterOnly 'r' .absent, .letterOnly 'p' .required] false words
  match scan.given with
  | .error _ => Run.fail "Illegal option".toList
  | .ok options =>
      let names := scan.operands
      if names = [] then Run.fail "arg count".toList
      else
        match names.find? fun name => !isName name with
        | some name => Run.fail (name ++ ": bad variable name".toList)
        | none =>
            let state ← get
            let raw := options.any (·.1 == "r")
            let (glyphs, count, ended) := readGlyphs raw (state.readable 0)
            let separators := state.separators
            let line := glyphs.dropWhile (isBlankSeparator separators)
            set (state.consume 0 count)
            (fieldsFor separators names line).forM fun entry => Run.assign entry.1 entry.2
            return if ended then 0 else 1

/-- The number of the signal that a word names or writes; zero is the end of the shell. -/
def signal? (word : Octets) : Option Nat :=
  match Decimal.read? word with
  | some n => if n ≤ 64 then some n else none
  | none =>
      let name := word.map Char.toUpper
      if name = "EXIT".toList then some 0
      else
        ((signalNames.map Prod.fst).zipIdx.find? (·.1.toList == name)).map fun entry =>
          entry.2 + 1

def killSignal : Nat := 9

def interruptSignal : Nat := 2

def pipeSignal : Nat := 13

def terminateSignal : Nat := 15

/-- The signals that leave a program alone if it says nothing about them. -/
def harmlessSignals : List Nat := [17, 18, 23, 28]

def signalName (signal : Nat) : Octets :=
  if signal = 0 then "EXIT".toList
  else
    match signalNames[signal - 1]? with
    | some entry => entry.1.toList
    | none => Decimal.digits signal

def setActions (action : Option Octets) : List Octets → Run Nat
  | [] => return 0
  | word :: rest => do
      match signal? word with
      | none =>
          modify fun state => state.write 2 ("trap: ".toList ++ word ++ ": bad trap\n".toList)
          return 1
      | some 0 =>
          modify fun state => { state with exitAction := action }
          setActions action rest
      | some signal =>
          modify fun state =>
            let others := state.signalActions.filter (·.1 != signal)
            { state with
              signalActions := match action with
                | some text => (signal, text) :: others
                | none => others }
          setActions action rest

def trap : Builtin := fun words => do
  let words := if words.head? = some ['-', '-'] then words.tail else words
  match words with
  | [] =>
      let state ← get
      let kept := match state.exitAction with
        | some action => [(0, action)]
        | none => []
      let actions := (kept ++ state.signalActions).mergeSort fun first second =>
        decide (first.1 ≤ second.1)
      actions.forM fun entry =>
        Run.print ("trap -- ".toList ++ quoted entry.2 ++ ' ' :: signalName entry.1 ++ ['\n'])
      return 0
  | [word] => setActions none [word]
  | action :: words => setActions (if action = ['-'] then none else some action) words

def receive (signal : Nat) : Run Unit := do
  let state ← get
  match (if signal = killSignal then none else state.signalActions.lookup signal) with
  | some _ => set { state with signalsCome := state.signalsCome ++ [signal] }
  | none =>
      if signal = 0 ∨ harmlessSignals.contains signal then return
      else
        set { state with killedBy := some signal }
        throw .leave

/-- Sends a signal to each process; there is only the shell itself. -/
def sendEach (signal : Nat) (status : Nat) : List Octets → Run Nat
  | [] => return status
  | word :: rest => do
      if word.head? = some '%' then Run.fail ("No such job: ".toList ++ word)
      else
        let process ← number (if word.head? = some '-' then word.tail else word)
        if process = State.processNumber then
          receive signal
          sendEach signal status rest
        else
          Run.warn "No such process\n".toList
          sendEach signal 1 rest

def listSignals (words : List Octets) : Run Nat := do
  match words with
  | [] =>
      Run.print ("0\n".toList ++ (List.range signalNames.length).flatMap fun n =>
        signalName (n + 1) ++ ['\n'])
      return 0
  | word :: _ =>
      let n ← number word
      let signal := if 128 < n then n - 128 else n
      if 0 < signal ∧ signal ≤ signalNames.length then
        Run.print (signalName signal ++ ['\n'])
        return 0
      else Run.fail ("invalid signal number or exit status: ".toList ++ word)

def kill : Builtin := fun words => do
  let send (signal : Nat) (words : List Octets) : Run Nat :=
    if words = [] then
      Run.fail ("Usage: kill [-s sigspec | -signum | -sigspec] [pid | job]... or\n".toList ++
        "kill -l [exitstatus]".toList)
    else sendEach signal 0 words
  match words with
  | ['-', 'l'] :: rest => listSignals rest
  | ['-', 's'] :: [] => Run.fail "No arg for -s option".toList
  | ['-', 's'] :: name :: rest =>
      match signal? name with
      | some signal => send signal rest
      | none => Run.fail ("invalid signal number or name: ".toList ++ name)
  | ['-', '-'] :: rest => send terminateSignal rest
  | ('-' :: name) :: rest =>
      match signal? name with
      | some signal => send signal rest
      | none => Run.fail ("Illegal option -".toList ++ name.take 1)
  | words => send terminateSignal words

def leave : Builtin := fun words => do
  match words with
  | [] => throw .leave
  | word :: _ =>
      let status ← number word
      modify fun state => { state with status }
      throw .leave

def return_ : Builtin := fun words => do
  match words with
  | [] => throw .return_
  | word :: _ =>
      let status ← number word
      modify fun state => { state with status }
      throw .return_

def leaveLoops (interrupt : Nat → Interrupt) : Builtin := fun words => do
  let count ←
    match words with
    | [] => pure 1
    | word :: _ => number word
  if count = 0 then Run.fail "Illegal number: 0".toList
  else
    let loops := min count (← get).loops
    if loops = 0 then return 0
    else
      modify fun state => { state with status := 0 }
      throw (interrupt loops)

/-- Reads the next option out of the parameters, or out of words. -/
def nextOption : Builtin := fun words => do
  match words with
  | layout :: name :: rest =>
      let state ← get
      let words := if rest.isEmpty then state.parameters else rest
      let place := ((state.value? "OPTIND".toList).bind Decimal.read?).getD 1
      let silent := layout.head? = some ':'
      let finish (place : Nat) : Run Nat := do
        modify fun state => { state.setValue "OPTIND".toList (Decimal.digits place) with
          letterPlace := 0 }
        Run.assign name ['?']
        return 1
      match words[place - 1]? with
      | none => finish place
      | some word =>
          if word = ['-', '-'] then finish (place + 1)
          else if word.head? ≠ some '-' ∨ word.length < 2 then finish place
          else
            let letterPlace := max 1 state.letterPlace
            let letter := (word[letterPlace]?).getD '?'
            let isLast := word.length ≤ letterPlace + 1
            let after := if isLast then place + 1 else place
            let known := layout.contains letter && letter != ':'
            let takes := known &&
              ((layout.dropWhile (· != letter)).drop 1).head? == some ':'
            let go (place letterPlace : Nat) : Run Unit :=
              modify fun state => { state.setValue "OPTIND".toList (Decimal.digits place) with
                letterPlace }
            if !known then
              go after (if isLast then 0 else letterPlace + 1)
              Run.assign name ['?']
              if silent then Run.assign "OPTARG".toList [letter]
              else
                modify fun state => (state.removeVariable "OPTARG".toList).write 2
                  ("Illegal option -".toList ++ [letter, '\n'])
              return 0
            else if takes then
              let value? := if isLast then words[place]? else some (word.drop (letterPlace + 1))
              match value? with
              | some value =>
                  go (if isLast then place + 2 else place + 1) 0
                  Run.assign name [letter]
                  Run.assign "OPTARG".toList value
                  return 0
              | none =>
                  go (place + 1) 0
                  if silent then
                    Run.assign name [':']
                    Run.assign "OPTARG".toList [letter]
                  else
                    Run.assign name ['?']
                    modify fun state => (state.removeVariable "OPTARG".toList).write 2
                      ("No arg for -".toList ++ [letter] ++ " option\n".toList)
                  return 0
            else
              go after (if isLast then 0 else letterPlace + 1)
              Run.assign name [letter]
              Run.assign "OPTARG".toList []
              return 0
  | _ => Run.fail "Usage: getopts optstring var [arg...]".toList

def succeed : Builtin := fun _ => return 0

/-- The permissions that a mask leaves, for each kind of user. -/
def maskLetters (mask : Nat) : Octets :=
  let letters (kind : Char) (bits : Nat) : Octets :=
    kind :: '=' :: ([(4, 'r'), (2, 'w'), (1, 'x')].filter fun entry =>
      bits &&& entry.1 = 0).map Prod.snd
  Text.join [','] [letters 'u' (mask / 64 % 8), letters 'g' (mask / 8 % 8),
    letters 'o' (mask % 8)]

def maskOf : Builtin := fun words => do
  let mask := (← get).mask
  match words with
  | [] =>
      Run.print ((Nat.toDigits 8 mask).leftpad 4 '0' ++ ['\n'])
      return 0
  | [['-', 'S']] =>
      Run.print (maskLetters mask ++ ['\n'])
      return 0
  | word :: _ =>
      if word.head?.any Char.isDigit then
        if Numeral.row 8 word = word then
          modify fun state => { state with mask := Numeral.value 8 word % 512 }
          return 0
        else Run.fail ("Illegal number: ".toList ++ word)
      else return 0

def remember : Builtin := fun words => do
  let state ← get
  let lost := words.filter fun word =>
    word.head? ≠ some '-' && !word.contains '/' &&
      (Text.pieces ':' ((state.value? "PATH".toList).getD [])).all fun directory =>
        !state.console.files.isExecutable
          (Octets.toText (Programs.Filing.inside directory word))
  lost.forM fun word => Run.warn (word ++ ": not found".toList)
  return if lost = [] then 0 else 1

/-- Moves a job, of which there is none. -/
def moveJob : Builtin := fun words =>
  match words with
  | [] => Run.fail "No current job".toList
  | word :: _ => Run.fail ("No such job: ".toList ++ word)

/-- Waits for processes, all of which have ended; of the last one the status is asked. -/
def await : Builtin := fun words =>
  match words.getLast? with
  | none => return 0
  | some word => do
      if word.head? = some '%' then Run.fail ("No such job: ".toList ++ word)
      else
        let _ ← number word
        return 127

def special : List (String × Builtin) :=
  [(":", succeed), ("break", leaveLoops .break_), ("continue", leaveLoops .continue_),
    ("exit", leave), ("export", exports), ("readonly", readOnly), ("return", return_),
    ("set", setting), ("shift", shift), ("times", succeed), ("trap", trap), ("unset", unset)]

def regular : List (String × Builtin) :=
  [("[", test ['[']), ("alias", succeed), ("bg", moveJob), ("cd", changeDirectory),
    ("chdir", changeDirectory), ("echo", echo), ("false", fun _ => return 1), ("fg", moveJob),
    ("getopts", nextOption), ("hash", remember), ("jobs", succeed), ("kill", kill), ("local", localize),
    ("printf", printf), ("pwd", workingDirectory), ("read", readLine),
    ("test", test "test".toList), ("true", succeed), ("ulimit", succeed), ("umask", maskOf),
    ("unalias", succeed), ("wait", await)]

def running : List String := [".", "eval", "exec", "command", "type"]

def specialNames : List Octets :=
  (special.map Prod.fst ++ [".", "eval", "exec"]).map String.toList

def isSpecial (name : Octets) : Bool :=
  specialNames.contains name

def isKnown (name : Octets) : Bool :=
  isSpecial name || regular.any (·.1.toList == name) || running.any (·.toList == name)

end Builtin

end CuratedHistory.Host.Shell
