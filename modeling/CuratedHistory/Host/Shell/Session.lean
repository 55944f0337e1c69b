import CuratedHistory.Host.Shell.Execution

namespace CuratedHistory.Host.Shell

/-! The shell as a program. It runs the text after an option, the file that its first
word names, or its input. -/

/-- What the words of a command line ask for. -/
structure Invocation where
  /-- Options with whether they are set. -/
  options : List (Bool × Char)
  /-- Whether the first operand is the text to run. -/
  runsText : Bool
  operands : List Octets
  problem : Option Octets

namespace Invocation

/-- Adds the options of letters; one takes its name from the words after it. -/
def addLetters (on : Bool) : Octets → List Octets → Invocation → Invocation × List Octets
  | [], words, invocation => (invocation, words)
  | 'c' :: letters, words, invocation =>
      addLetters on letters words { invocation with runsText := on }
  | 'o' :: letters, words, invocation =>
      let name := words.headD []
      match Builtin.optionNames.find? (·.2.toList == name) with
      | some entry =>
          addLetters on letters words.tail
            { invocation with options := invocation.options ++ [(on, entry.1)] }
      | none =>
          addLetters on letters words.tail
            { invocation with problem := some ("Illegal option -o ".toList ++ name) }
  | letter :: letters, words, invocation =>
      if (Builtin.optionNames.lookup letter).isSome ∨ letter = 'l' then
        addLetters on letters words
          { invocation with options := invocation.options ++ [(on, letter)] }
      else
        addLetters on letters words
          { invocation with problem := some ("Illegal option -".toList ++ [letter]) }

/-- Reads the words; those after the options are operands. The number bounds them. -/
def read : Nat → List Octets → Invocation → Invocation
  | 0, _, invocation => invocation
  | n + 1, words, invocation =>
      match words with
      | ['-'] :: rest | ['-', '-'] :: rest => { invocation with operands := rest }
      | ('-' :: letters) :: rest =>
          let (invocation, rest) := addLetters true letters rest invocation
          read n rest invocation
      | ('+' :: letters) :: rest =>
          let (invocation, rest) := addLetters false letters rest invocation
          read n rest invocation
      | words => { invocation with operands := words }

def ofWords (words : List Octets) : Invocation :=
  read (words.length + 1) words
    { options := [], runsText := false, operands := [], problem := none }

def letters (invocation : Invocation) : List Char :=
  invocation.options.foldl
    (fun letters option =>
      let others := letters.filter (· != option.2)
      if option.1 then option.2 :: others else others)
    []

end Invocation

/-- Where programs are looked for if nothing tells so. -/
def usualPath : Octets :=
  "/usr/local/sbin:/usr/local/bin:/usr/sbin:/usr/bin:/sbin:/bin".toList

/-- The variables of a shell with those that it is given. -/
def startVariables (console : Console) : List (Octets × Variable) :=
  let kept (name value : Octets) : Octets × Variable :=
    (name, { value := some value, exported := false, readOnly := false })
  let given := (console.bindings.filter fun entry =>
    isName entry.1 && !(["IFS", "OPTIND", "PWD"].any (·.toList == entry.1))).map fun entry =>
      (entry.1, ({ value := some entry.2, exported := true, readOnly := false } : Variable))
  let own := [kept "IFS".toList " \t\n".toList, kept "OPTIND".toList ['1'],
    kept "PWD".toList (Builtin.pathOf console.files.workingDirectory)]
  let path :=
    if given.any (·.1 == "PATH".toList) then [] else [kept "PATH".toList usualPath]
  given ++ own ++ path

def State.start (dialect : Dialect) (title : Octets) (parameters : List Octets)
    (options : List Char) (console : Console) : State where
  dialect
  title
  parameters
  bindings := startVariables console
  functions := []
  documents := []
  asked := 0
  options
  status := 0
  line := 0
  functionStart := none
  reached := 0
  commandName := none
  channels := [.input, .stream .output, .stream .errors]
  descriptors := [(0, 0), (1, 1), (2, 2)]
  console
  exitAction := none
  signalActions := []
  signalsCome := []
  killedBy := none
  mask := 18
  outputStatus := 0
  loops := 0
  locals := []
  lostOutput := false
  letterPlace := 0

def State.finish (state : State) (kernel : Kernel) (text : Octets) : Console × Nat :=
  let run : Run Unit := do
    let interrupt ← Execution.catching do
      let status ← Execution.runText kernel false text 1
      modify fun state => { state with status }
    let _ := interrupt
    Execution.runExitAction kernel
  let (_, after) := (ExceptT.run run).run state
  ({ after.console with killedBy := after.killedBy }, after.status % 256)

def program (dialect : Dialect) (launch : Launcher) : Program := fun name words console =>
  let invocation := Invocation.ofWords words
  let kernel := Kernel.standard launch
  let options := invocation.letters
  let fail (text : Octets) (status : Nat) : Console × Nat :=
    (console.complain (name ++ (match dialect with
      | .plain => ": 0: "
      | .extended => ": ").toList ++ text), status)
  match invocation.problem with
  | some text => fail text 2
  | none =>
      if invocation.runsText then
        match invocation.operands with
        | [] => fail "-c requires an argument".toList 2
        | text :: rest =>
            (State.start dialect (rest.headD name) rest.tail options console).finish kernel text
      else
        match invocation.operands with
        | [] =>
            let (text, console) := console.readAll
            (State.start dialect name [] options console).finish kernel text
        | path :: parameters =>
            match console.readFile path with
            | .ok text =>
                (State.start dialect path parameters options console).finish kernel text
            | .error cause =>
                match dialect with
                | .extended => fail (path ++ ": ".toList ++ cause.plainMessage) 127
                | .plain =>
                    let reason :=
                      if cause = .notFound ∨ cause = .notDirectory then "No such file".toList
                      else cause.plainMessage
                    fail ("cannot open ".toList ++ path ++ ": ".toList ++ reason) 2

end CuratedHistory.Host.Shell
