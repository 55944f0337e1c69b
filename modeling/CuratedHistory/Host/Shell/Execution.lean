import CuratedHistory.Host.Shell.Builtin

namespace CuratedHistory.Host.Shell

/-! Running commands. What a command runs inside of itself is run one level of nesting
further down. A command is tested if its status decides what is run, so that it does
not end a shell that ends when a command fails. -/

/-- How the commands inside of a command are run, and how programs are started. -/
structure Kernel where
  run : Bool → Command → Run Nat
  launch : Launcher

namespace Execution

def catching (run : Run Unit) : Run (Option Interrupt) := do
  let (result, after) := (ExceptT.run run).run (← get)
  set after
  match result with
  | .ok () => return none
  | .error interrupt => return some interrupt

/-- Runs something, and something else after it in any case. -/
def thenAlways {α : Type} (run : Run α) (last : Run Unit) : Run α := do
  let (result, after) := (ExceptT.run run).run (← get)
  set after
  last
  match result with
  | .ok value => return value
  | .error interrupt => throw interrupt

/-- Runs the lines of a text after a reader. The number bounds the lines. -/
def runLines (kernel : Kernel) (tested : Bool) : Nat → Reader → Nat → Run Nat
  | 0, _, status => return status
  | n + 1, reader, status => do
      match reader.nextLine with
      | .error error =>
          modify fun state => { state with line := error.line, reached := error.line }
          Run.fail error.text
      | .ok .ending => return status
      | .ok (.commands none reader) => runLines kernel tested n reader status
      | .ok (.commands (some command) reader) =>
          modify fun state => { state with
            reached := reader.line
            documents := reader.documents ++ state.documents
            asked := max reader.asked state.asked }
          let status ← kernel.run tested command
          let asked := (← get).asked
          runLines kernel tested n
            { reader with documents := [], asked := max reader.asked asked } status

/-- Runs the commands of a text that starts at a line; without any the status is zero. -/
def runText (kernel : Kernel) (tested : Bool) (text : Octets) (line : Nat) : Run Nat := do
  let before ← get
  let reader := Reader.start text line before.asked Builtin.specialNames
  thenAlways (runLines kernel tested (text.length + 2) reader 0)
    (modify fun state => { state with reached := before.reached })

/-- Runs what has been kept for the end, once. -/
def runExitAction (kernel : Kernel) : Run Unit := do
  let state ← get
  match (if state.killedBy.isSome then none else state.exitAction) with
  | none => return
  | some action =>
      set { state with exitAction := none }
      let interrupt ← catching do
        let _ ← runText kernel false action 1
      match interrupt with
      | none => modify fun after => { after with status := state.status }
      | some _ => return

/-- Runs something in a shell of its own: its interrupts end there, and only what it did
to files and channels stays. -/
def apart (kernel : Kernel) (run : Run Unit) : Run Unit := do
  let before ← get
  set { before with exitAction := none, signalActions := [], loops := 0 }
  let _ ← catching run
  runExitAction kernel
  let after ← get
  set { before with
    status := after.status
    killedBy := after.killedBy
    channels := after.channels
    asked := after.asked
    console := { after.console with
      files := { after.console.files with
        workingDirectory := before.console.files.workingDirectory } } }
  if after.killedBy.isSome then throw .leave

def outputOf (kernel : Kernel) : OutputOf := fun commands => do
  match commands with
  | none =>
      modify fun state => { state with outputStatus := 0 }
      return []
  | some command =>
      let before ← get
      let (state, number) := before.addChannel (.sink [])
      set (state.setDescriptor 1 number)
      apart kernel do
        let _ ← kernel.run false command
      let after ← get
      set { after with
        descriptors := before.descriptors, status := before.status, outputStatus := after.status }
      return after.collected number

/-! Redirections. -/

/-- A redirection whose word has been expanded. -/
inductive ReadyRedirect where
  | file (descriptor : Nat) (opening : Opening) (path : Octets)
  | duplicate (descriptor : Nat) (target : Octets)
  | document (descriptor : Nat) (content : Octets)

def ready (kernel : Kernel) : Redirect → Run ReadyRedirect
  | .file descriptor opening path => do
      return .file descriptor opening (← Expansion.text (outputOf kernel) path)
  | .duplicate descriptor target => do
      return .duplicate descriptor (← Expansion.text (outputOf kernel) target)
  | .document descriptor number => do
      let word := ((← get).documents.lookup number).getD []
      return .document descriptor
        (← Expansion.joined (outputOf kernel) Expansion.depth word)

def attach (descriptor : Nat) (channel : Channel) : Run Unit :=
  modify fun state =>
    let (state, number) := state.addChannel channel
    state.setDescriptor descriptor number

def refuseFile {α : Type} (path : Octets) (creates : Bool) (cause : FileError) : Run α := do
  let isLost := cause = .notFound ∨ cause = .notDirectory
  match (← get).dialect with
  | .extended => Run.fail (path ++ ": ".toList ++ cause.plainMessage)
  | .plain =>
      let reason :=
        if isLost then (if creates then "Directory nonexistent" else "No such file").toList
        else cause.plainMessage
      Run.fail ("cannot ".toList ++ (if creates then "create " else "open ").toList ++ path ++
        ": ".toList ++ reason)

def openFile (descriptor : Nat) (opening : Opening) (path : Octets) : Run Unit := do
  let state ← get
  let files := state.console.files
  match opening with
  | .read =>
      match Programs.Filing.find state.console path with
      | .error cause => refuseFile path false cause
      | .ok found =>
          match found.node with
          | .file _ _ => attach descriptor (.file found.location 0 false)
          | .directory | .sink => attach descriptor .nothing
  | .write | .overwrite | .append | .readWrite =>
      let keeps := opening = .append ∨ opening = .readWrite
      if opening = .write ∧ state.hasOption 'C' ∧ files.isFile (Octets.toText path) then
        Run.fail ("cannot create ".toList ++ path ++ ": File exists".toList)
      else
        match files.writable (Octets.toText path) with
        | .error cause => refuseFile path true cause
        | .ok .sink => attach descriptor .nothing
        | .ok (.file location mode) =>
            let content :=
              match files.node? location with
              | some (.file _ content) => if keeps then content else []
              | _ => []
            set { state with console := { state.console with
              files := files.put location (.file mode content) } }
            attach descriptor (.file location 0 (opening = .append))

/-- Refuses what is no descriptor, at the line that has been read last. -/
def refuseDescriptor : Run Unit := do
  modify fun state => { state with line := state.reached }
  Run.fail "Syntax error: Bad fd number".toList

def redirect : ReadyRedirect → Run Unit
  | .file descriptor opening path => openFile descriptor opening path
  | .document descriptor content => attach descriptor (.source content)
  | .duplicate descriptor target => do
      let state ← get
      match target with
      | ['-'] => set (state.closeDescriptor descriptor)
      | [digit] =>
          if digit.isDigit then
            match state.descriptors.lookup (digit.toNat - 48) with
            | some number => set (state.setDescriptor descriptor number)
            | none => Run.fail (digit :: ": Bad file descriptor".toList)
          else refuseDescriptor
      | _ => refuseDescriptor

/-- The status after a redirection that fails. -/
def redirectStatus (state : State) : Nat :=
  match state.dialect with
  | .plain => 2
  | .extended => 1

/-- Redirects, and tells whether that went well. -/
def redirectAll (redirects : List ReadyRedirect) : Run Bool := do
  let interrupt ← catching (redirects.forM redirect)
  return interrupt.isNone

def withRedirects (redirects : List ReadyRedirect) (run : Run Nat) : Run Nat := do
  let before := (← get).descriptors
  if ← redirectAll redirects then
    thenAlways run (modify fun state => { state with descriptors := before })
  else
    modify fun state => { state with descriptors := before, status := redirectStatus state }
    return redirectStatus (← get)

/-! Programs. -/

/-- The path of a program that is named without a separator. -/
def searched? (state : State) (name : Octets) : Option Octets :=
  (Text.pieces ':' ((state.value? "PATH".toList).getD [])).findSome? fun directory =>
    let path := if directory = [] then name else Programs.Filing.inside directory name
    if state.console.files.isExecutable (Octets.toText path) then some path else none

def missing (state : State) (name : Octets) : Octets :=
  name ++ (match state.dialect with
    | .plain => ": not found"
    | .extended => ": command not found").toList

/-- What keeps a program from starting, and the status for it. -/
def startProblem (state : State) (name : Octets) (cause : FileError) : Octets × Nat :=
  match cause with
  | .notFound | .notDirectory =>
      match state.dialect with
      | .plain => (name ++ ": not found".toList, 127)
      | .extended => (name ++ ": ".toList ++ cause.plainMessage, 127)
  | cause =>
      if state.dialect = .extended ∧ state.console.isDirectory name then
        (name ++ ": Is a directory".toList, 126)
      else (name ++ ": ".toList ++ cause.plainMessage, 126)

/-- The shell that runs scripts which do not name one. -/
def shellPath : Octets := "/bin/sh".toList

/-- Starts a program, and gives what it leaves behind to the channels. -/
def launch (kernel : Kernel) (path name : Octets) (words : List Octets) : Run Nat := do
  let state ← get
  let input := state.readable 0
  let console : Console := {
    input
    rewinds := state.rewinds 0
    writings := []
    files := state.console.files
    bindings := state.exported
    killedBy := none }
  let started :=
    match kernel.launch path name words console with
    | .error .badProgram => kernel.launch shellPath shellPath (path :: words) console
    | result => result
  match started with
  | .error cause =>
      let (text, status) := startProblem state name cause
      Run.warn text
      return status
  | .ok (after, status) =>
      set { state with console := { state.console with
        files := { after.files with
          workingDirectory := state.console.files.workingDirectory } } }
      modify fun state => state.consume 0 (input.length - after.input.length)
      modify fun state => after.writings.reverse.foldl
        (fun state writing =>
          state.write (match writing.1 with
            | .output => 1
            | .errors => 2) writing.2)
        state
      match after.killedBy with
      | none => return status
      | some signal =>
          let told := ((signalNames[signal - 1]?).map Prod.snd).getD "Unknown signal"
          if signal ≠ Builtin.interruptSignal ∧ signal ≠ Builtin.pipeSignal then
            modify fun state => state.write 2 (told.toList ++ ['\n'])
          return 128 + signal

def external (kernel : Kernel) (name : Octets) (words : List Octets) : Run Nat := do
  let state ← get
  if name.contains '/' then launch kernel name name words
  else
    match searched? state name with
    | some path => launch kernel path name words
    | none =>
        Run.warn (missing state name)
        return 127

def restore (held : List (Octets × Option Variable)) : Run Unit :=
  modify fun state => held.foldl
    (fun (state : State) entry =>
      match entry.2 with
      | some found => state.setVariable entry.1 found
      | none => state.removeVariable entry.1)
    state

/-! Commands of the shell that run others. -/

def under (name : Octets) (run : Run Nat) : Run Nat := do
  let before := (← get).commandName
  modify fun state => { state with commandName := some name }
  thenAlways run (modify fun state => { state with commandName := before })

def source (kernel : Kernel) : Builtin := fun words => do
  match words with
  | [] => return 0
  | path :: arguments =>
      let state ← get
      let found :=
        if path.contains '/' then some path
        else
          match (Text.pieces ':' ((state.value? "PATH".toList).getD [])).find? fun directory =>
            state.console.files.isFile
              (Octets.toText (Programs.Filing.inside directory path)) with
          | some directory => some (Programs.Filing.inside directory path)
          | none => if state.dialect = .extended then some path else none
      match found with
      | none => Run.fail (path ++ ": not found".toList)
      | some found =>
          match state.console.readFile found with
          | .error cause => refuseFile path false cause
          | .ok text =>
              modify fun state => { state with commandName := some found, status := 0 }
              if arguments ≠ [] ∧ state.dialect = .extended then
                modify fun inner => { inner with parameters := arguments }
              let interrupt? ← catching do
                let status ← runText kernel false text 1
                modify fun inner => { inner with status }
              if arguments ≠ [] ∧ state.dialect = .extended then
                modify fun inner => { inner with parameters := state.parameters }
              match interrupt? with
              | none | some .return_ => return (← get).status
              | some interrupt => throw interrupt

def described (state : State) (brief : Bool) (name : Octets) : Option Octets :=
  let told (text : String) : Octets := if brief then name else name ++ text.toList
  if (Keyword.named.find? (·.1.toList == name)).isSome then some (told " is a shell keyword")
  else if (state.functions.lookup name).isSome then some (told " is a shell function")
  else if Builtin.isSpecial name then some (told " is a special shell builtin")
  else if Builtin.isKnown name then some (told " is a shell builtin")
  else
    let found :=
      if name.contains '/' then
        if state.console.files.isExecutable (Octets.toText name) then some name else none
      else searched? state name
    found.map fun path => if brief then path else name ++ " is ".toList ++ path

def describe (brief : Bool) (names : List Octets) : Run Nat := do
  let statuses ← names.mapM fun name => do
    let state ← get
    match described state brief name with
    | some text =>
        Run.print (text ++ ['\n'])
        return 0
    | none =>
        if !brief then Run.print (name ++ ": not found\n".toList)
        return 127
  return statuses.foldl max 0

/-- The first word of a command as what runs the others. -/
structure Resolved where
  name : Octets
  words : List Octets
  /-- Whether functions are passed over, and mistakes do not end the shell. -/
  guarded : Bool

/-- Takes the words in front that only say how a command is found. -/
def resolve : Nat → Resolved → Resolved
  | 0, resolved => resolved
  | n + 1, resolved =>
      if resolved.name = "command".toList then
        let words := resolved.words.dropWhile fun word => word = ['-', 'p']
        let words := if words.head? = some ['-', '-'] then words.tail else words
        match words with
        | name :: rest =>
            if name.head? = some '-' then resolved
            else resolve n { name, words := rest, guarded := true }
        | [] => resolved
      else resolved

def call (kernel : Kernel) (tested : Bool) (line : Nat) (body : Command)
    (words : List Octets) : Run Nat := do
  let before ← get
  set { before with
    parameters := words, locals := [] :: before.locals, loops := 0
    functionStart := some line, commandName := none }
  let (result, after) := (ExceptT.run (kernel.run tested body)).run (← get)
  set after
  restore (after.locals.headD [])
  modify fun state => { state with
    parameters := before.parameters, locals := before.locals, loops := before.loops
    functionStart := before.functionStart, commandName := before.commandName }
  match result with
  | .ok status => return status
  | .error .return_ => return (← get).status
  | .error interrupt => throw interrupt

def replace (kernel : Kernel) : Builtin := fun words => do
  match words with
  | [] => return 0
  | name :: words =>
      let state ← get
      let path? := if name.contains '/' then some name else searched? state name
      match path? with
      | none =>
          Run.warn (missing state name)
          modify fun state => { state with status := 127, exitAction := none }
          throw .leave
      | some path =>
          let status ← launch kernel path name words
          modify fun state => { state with status, exitAction := none }
          throw .leave

def builtin? (kernel : Kernel) (tested : Bool) (state : State) (name : Octets) :
    Option Builtin :=
  if name = ['.'] ∨ (name = "source".toList ∧ state.dialect = .extended) then
    some (source kernel)
  else if name = "eval".toList then
    some fun words => runText kernel tested (Text.join [' '] words) 1
  else if name = "exec".toList then some (replace kernel)
  else if name = "command".toList then
    some fun words =>
      match words with
      | ['-', 'v'] :: names => describe true (names.take 1)
      | ['-', 'V'] :: names => describe false (names.take 1)
      | _ => return 0
  else if name = "type".toList then some (describe false)
  else ((Builtin.special ++ Builtin.regular).find? (·.1.toList == name)).map Prod.snd

def runSignalActions (kernel : Kernel) : Run Unit := do
  let state ← get
  set { state with signalsCome := [] }
  state.signalsCome.forM fun signal =>
    match state.signalActions.lookup signal with
    | some action => do
        let _ ← runText kernel false action 1
    | none => pure ()

def runBuiltin (kernel : Kernel) (name : Octets) (fatal : Bool) (builtin : Builtin) (words : List Octets) :
    Run Nat := do
  let checked : Run Nat := do
    let status ← builtin words
    if (← get).lostOutput then
      Run.warn (name ++ ": I/O error".toList)
      return status ||| 1
    else return status
  let (result, after) := (ExceptT.run (under name checked)).run
    { (← get) with lostOutput := false }
  set { after with lostOutput := false }
  match result with
  | .ok status =>
      runSignalActions kernel
      return status
  | .error .fail => if fatal then throw .fail else return (← get).status
  | .error interrupt => throw interrupt

def export_ (assignments : List (Octets × Octets)) : Run Unit :=
  assignments.forM fun entry => do
    Run.assign entry.1 entry.2
    modify fun state =>
      match state.held? entry.1 with
      | some found => state.setVariable entry.1 { found with exported := true }
      | none => state

def withVariables (assignments : List (Octets × Octets)) (run : Run Nat) : Run Nat := do
  let state ← get
  let held := assignments.map fun entry => (entry.1, state.held? entry.1)
  export_ assignments
  thenAlways run (restore held)

/-- Shows a command before it runs, if that is asked for. -/
def trace (assignments : List (Octets × Octets)) (words : List Octets) : Run Unit := do
  let state ← get
  if state.hasOption 'x' then
    let shown := assignments.map (fun entry => entry.1 ++ '=' :: entry.2) ++ words
    set (state.write 2
      ((state.value? "PS4".toList).getD "+ ".toList ++ Text.join [' '] shown ++ ['\n']))

def expandAssignments (kernel : Kernel) : List (Octets × Word) → Run (List (Octets × Octets))
  | [] => return []
  | (name, word) :: rest => do
      let value ← Expansion.text (outputOf kernel) word
      return (name, value) :: (← expandAssignments kernel rest)

/-- Assigns in turn, each value expanded after the assignments before it. -/
def assignEach (kernel : Kernel) : List (Octets × Word) → Run (List (Octets × Octets))
  | [] => return []
  | (name, word) :: rest => do
      let value ← Expansion.text (outputOf kernel) word
      Run.assign name value
      return (name, value) :: (← assignEach kernel rest)

def commandFields (kernel : Kernel) (words : List Word) : Run (List Octets) := do
  match words with
  | [] => return []
  | first :: rest =>
      let start ← Expansion.fields (outputOf kernel) first
      let assigns := match start with
        | [name] => ["export", "readonly", "local"].any (·.toList == name)
        | _ => false
      if assigns then
        let others ← rest.mapM fun word => do
          match Reading.assignment? word with
          | some (name, value) =>
              return [name ++ '=' :: (← Expansion.text (outputOf kernel) value)]
          | none => Expansion.fields (outputOf kernel) word
        return start ++ others.flatten
      else return start ++ (← Expansion.allFields (outputOf kernel) rest)

def runWords (kernel : Kernel) (tested : Bool) (assignments : List (Octets × Word))
    (redirects : List ReadyRedirect) (name : Octets) (words : List Octets) : Run Nat := do
  let state ← get
  let resolved := resolve (words.length + 1) { name, words, guarded := false }
  let function? :=
    if resolved.guarded ∨ Builtin.isSpecial resolved.name then none
    else state.functions.lookup resolved.name
  let builtin? :=
    if function?.isSome then none else builtin? kernel tested state resolved.name
  let special := Builtin.isSpecial resolved.name && !resolved.guarded
  if special then
    let before := state.descriptors
    if ← redirectAll redirects then
      let values ← assignEach kernel assignments
      trace values (name :: words)
      let keeps := resolved.name = "exec".toList ∧ resolved.words = []
      match builtin? with
      | some builtin =>
          thenAlways (runBuiltin kernel resolved.name true builtin resolved.words)
            (unless keeps do modify fun state => { state with descriptors := before })
      | none => return 0
    else
      modify fun state => { state with descriptors := before, status := redirectStatus state }
      throw .fail
  else
    withRedirects redirects do
      let values ← expandAssignments kernel assignments
      trace values (name :: words)
      withVariables values do
        match function?, builtin? with
        | some (line, body), _ => call kernel tested line body resolved.words
        | none, some builtin => runBuiltin kernel resolved.name false builtin resolved.words
        | none, none => external kernel resolved.name resolved.words

/-- Ends the shell after a command that failed, if that is asked for. -/
def checkFailure (tested : Bool) (status : Nat) : Run Nat := do
  modify fun state => { state with status }
  if status ≠ 0 ∧ !tested ∧ (← get).hasOption 'e' then throw .leave
  else return status

def simple (kernel : Kernel) (tested : Bool) (line : Nat) (assignments : List (Octets × Word))
    (words : List Word) (redirects : List Redirect) : Run Nat := do
  modify fun state => { state with line, outputStatus := 0 }
  let fields ← commandFields kernel words
  let redirects ← redirects.mapM (ready kernel)
  match fields with
  | name :: rest => runWords kernel tested assignments redirects name rest
  | [] =>
      let before := (← get).descriptors
      if ← redirectAll redirects then
        let values ← assignEach kernel assignments
        if values ≠ [] then trace values []
        modify fun state => { state with descriptors := before }
        return (← get).outputStatus
      else
        modify fun state => { state with descriptors := before, status := redirectStatus state }
        return redirectStatus (← get)

/-- Runs one round of a loop; tells whether there may be another one. -/
def round (body : Run Nat) : Run (Bool × Nat) := do
  let (result, after) := (ExceptT.run body).run (← get)
  set after
  match result with
  | .ok status => return (true, status)
  | .error (.break_ n) => if 1 < n then throw (.break_ (n - 1)) else return (false, 0)
  | .error (.continue_ n) => if 1 < n then throw (.continue_ (n - 1)) else return (true, 0)
  | .error interrupt => throw interrupt

def rounds : Nat := 1000000

/-- Repeats a body as long as a condition holds, or fails. -/
def repeatBody (condition body : Run Nat) (endsOn : Bool) : Nat → Nat → Run Nat
  | 0, status => return status
  | n + 1, status => do
      let (goes, found) ← round condition
      if !goes then return 0
      else if (found = 0) = endsOn then return status
      else
        let (goes, status) ← round body
        if goes then repeatBody condition body endsOn n status else return status

def forEach (name : Octets) (body : Run Nat) : List Octets → Nat → Run Nat
  | [], status => return status
  | word :: rest, _ => do
      Run.assign name word
      let (goes, status) ← round body
      if goes then forEach name body rest status else return status

def inLoop (run : Run Nat) : Run Nat := do
  let before := (← get).loops
  modify fun state => { state with loops := before + 1 }
  thenAlways run (modify fun state => { state with loops := before })

def chosen? (kernel : Kernel) (text : Octets) :
    List (List Word × Option Command) → Run (Option (Option Command))
  | [] => return none
  | (patterns, body) :: rest => do
      let fits ← patterns.foldlM
        (fun fits word => do
          if fits then return true
          else return (← Expansion.pattern (outputOf kernel) word).accepts text) false
      if fits then return some body else chosen? kernel text rest

/-- Runs the commands of a pipeline, each with the output of the one before. -/
def pipe (kernel : Kernel) (tested : Bool) :
    List Command → Option Nat → List Nat → Run (List Nat)
  | [], _, statuses => return statuses
  | command :: rest, input?, statuses => do
      let before ← get
      match input? with
      | some number =>
          let (state, source) := before.addChannel (.source (before.collected number))
          set (state.setDescriptor 0 source)
      | none => pure ()
      let output? ←
        if rest.isEmpty then pure none
        else
          let (state, number) := (← get).addChannel (.sink [])
          set (state.setDescriptor 1 number)
          pure (some number)
      apart kernel do
        let _ ← kernel.run tested command
      modify fun state => { state with descriptors := before.descriptors }
      let status := (← get).status
      pipe kernel tested rest output? (status :: statuses)

def step (kernel : Kernel) (tested : Bool) (command : Command) : Run Nat := do
  if (← get).hasOption 'n' then return (← get).status
  match command with
  | .simple line assignments words redirects => do
      let status ← simple kernel tested line assignments words redirects
      checkFailure tested status
  | .pipeline commands => do
      let statuses ← pipe kernel tested commands none []
      let status :=
        if (← get).hasOption 'P' then (statuses.find? (· ≠ 0)).getD 0 else statuses.headD 0
      checkFailure tested status
  | .background command => do
      let before ← get
      let (state, number) := before.addChannel .nothing
      set (state.setDescriptor 0 number)
      apart kernel do
        let _ ← kernel.run tested command
      modify fun state => { state with descriptors := before.descriptors, status := 0 }
      return 0
  | .inverted command => do
      let status ← kernel.run true command
      let status := if status = 0 then 1 else 0
      modify fun state => { state with status }
      return status
  | .both first second => do
      let status ← kernel.run true first
      if status = 0 then kernel.run tested second else return status
  | .either first second => do
      let status ← kernel.run true first
      if status = 0 then return 0 else kernel.run tested second
  | .sequence first second => do
      let _ ← kernel.run tested first
      kernel.run tested second
  | .subshell line body redirects => do
      modify fun state => { state with line }
      let redirects ← redirects.mapM (ready kernel)
      apart kernel do
        if ← redirectAll redirects then
          let _ ← kernel.run tested body
        else throw .fail
      checkFailure tested (← get).status
  | .redirected line body redirects => do
      modify fun state => { state with line }
      let redirects ← redirects.mapM (ready kernel)
      let status ← withRedirects redirects (kernel.run tested body)
      modify fun state => { state with status }
      return status
  | .conditional condition body otherwise => do
      let status ← kernel.run true condition
      if status = 0 then kernel.run tested body
      else
        match otherwise with
        | some other => kernel.run tested other
        | none =>
            modify fun state => { state with status := 0 }
            return 0
  | .loop endsOn condition body => do
      let status ← inLoop
        (repeatBody (kernel.run true condition) (kernel.run tested body) endsOn rounds 0)
      modify fun state => { state with status }
      return status
  | .each line name words body => do
      modify fun state => { state with line }
      let fields ← Expansion.allFields (outputOf kernel) words
      let status ← inLoop (forEach name (kernel.run tested body) fields 0)
      modify fun state => { state with status }
      return status
  | .choice line word cases => do
      modify fun state => { state with line }
      let text ← Expansion.text (outputOf kernel) word
      let status ←
        match ← chosen? kernel text cases with
        | some (some body) => kernel.run tested body
        | some none | none => pure 0
      modify fun state => { state with status }
      return status
  | .function line name body => do
      modify fun state => { state with
        functions := (name, line, body) :: state.functions.filter (·.1 != name), status := 0 }
      return 0

end Execution

/-- Runs commands whose nesting does not go deeper than a number. -/
def runCommand (launch : Launcher) : Nat → Bool → Command → Run Nat
  | 0, _, _ => throw .leave
  | depth + 1, tested, command =>
      Execution.step { run := runCommand launch depth, launch } tested command

def nestingLimit : Nat := 100000

def Kernel.standard (launch : Launcher) : Kernel where
  run := runCommand launch nestingLimit
  launch

end CuratedHistory.Host.Shell
