import CuratedHistory.Host.Console
import CuratedHistory.Host.Shell.Reader

namespace CuratedHistory.Host.Shell

/-! What a shell keeps between commands, and what it reads from and writes to. A
descriptor stands for a channel, which several descriptors may share. -/

/-- The two ways in which shells differ here. -/
inductive Dialect where
  | plain
  | extended
  deriving DecidableEq, Repr

structure Variable where
  value : Option Octets
  exported : Bool
  readOnly : Bool
  deriving DecidableEq, Repr

inductive Channel where
  /-- The input of the shell itself. -/
  | input
  /-- A stream that the shell itself writes to. -/
  | stream (stream : OutputStream)
  /-- Octets that are left to read. -/
  | source (rest : Octets)
  /-- Octets that are collected, the latest first. -/
  | sink (written : List Octets)
  | file (location : Location) (offset : Nat) (appends : Bool)
  | nothing
  deriving DecidableEq, Repr

structure State where
  dialect : Dialect
  /-- What the shell is called in what it tells. -/
  title : Octets
  parameters : List Octets
  bindings : List (Octets × Variable)
  functions : List (Octets × Nat × Command)
  documents : Documents
  asked : Nat
  options : List Char
  status : Nat
  /-- The line of the command that runs, and the line that its function starts at. -/
  line : Nat
  functionStart : Option Nat
  /-- The line that the reader of the commands has come to. -/
  reached : Nat
  /-- The name of the command of the shell that runs. -/
  commandName : Option Octets
  channels : List Channel
  /-- Descriptors with the numbers of their channels. -/
  descriptors : List (Nat × Nat)
  console : Console
  /-- What is run at the end. -/
  exitAction : Option Octets
  /-- What is run on signals, by their numbers. -/
  signalActions : List (Nat × Octets)
  /-- The signals that have come and that something is run on. -/
  signalsCome : List Nat
  /-- The signal that ends the shell. -/
  killedBy : Option Nat
  /-- The permissions that new files lack, of which only the number is told. -/
  mask : Nat
  /-- The status of the last command whose output was taken. -/
  outputStatus : Nat
  /-- How many loops there are around the command. -/
  loops : Nat
  /-- What the variables of the functions that run were before, the innermost first. -/
  locals : List (List (Octets × Option Variable))
  /-- Whether something was printed where nothing can be written. -/
  lostOutput : Bool
  /-- How far the letters of the word have been read that options are read from. -/
  letterPlace : Nat

/-- What ends commands before their time. -/
inductive Interrupt where
  | leave
  /-- A mistake, which ends the shell unless a command of the shell is at work that is
  like any other program. -/
  | fail
  | return_
  | break_ (loops : Nat)
  | continue_ (loops : Nat)
  deriving DecidableEq, Repr

abbrev Run := ExceptT Interrupt (StateM State)

namespace State

/-! Variables. -/

def held? (state : State) (name : Octets) : Option Variable :=
  state.bindings.lookup name

def value? (state : State) (name : Octets) : Option Octets :=
  (state.held? name).bind (·.value)

def setVariable (state : State) (name : Octets) (held : Variable) : State :=
  { state with
    bindings := (name, held) :: state.bindings.filter (·.1 != name) }

def setValue (state : State) (name value : Octets) : State :=
  match state.held? name with
  | some held => state.setVariable name { held with value := some value }
  | none =>
      state.setVariable name
        { value := some value, exported := state.options.contains 'a', readOnly := false }

def removeVariable (state : State) (name : Octets) : State :=
  { state with bindings := state.bindings.filter (·.1 != name) }

/-- The variables that programs are given. -/
def exported (state : State) : List (Octets × Octets) :=
  state.bindings.reverse.filterMap fun entry =>
    if entry.2.exported then entry.2.value.map fun value => (entry.1, value) else none

def hasOption (state : State) (letter : Char) : Bool :=
  state.options.contains letter

/-! Channels. -/

def channel? (state : State) (descriptor : Nat) : Option Channel :=
  (state.descriptors.lookup descriptor).bind fun number => state.channels[number]?

def setChannel (state : State) (number : Nat) (channel : Channel) : State :=
  { state with channels := state.channels.set number channel }

/-- The state with a new channel, and its number. -/
def addChannel (state : State) (channel : Channel) : State × Nat :=
  ({ state with channels := state.channels ++ [channel] }, state.channels.length)

def setDescriptor (state : State) (descriptor number : Nat) : State :=
  { state with
    descriptors := (descriptor, number) :: state.descriptors.filter (·.1 != descriptor) }

def closeDescriptor (state : State) (descriptor : Nat) : State :=
  { state with descriptors := state.descriptors.filter (·.1 != descriptor) }

/-- The content of a file with octets written over it from an offset on. -/
def overwritten (content octets : Octets) (offset : Nat) : Octets :=
  content.take offset ++ List.replicate (offset - content.length) '\x00' ++ octets ++
    content.drop (offset + octets.length)

/-- Writes to a descriptor; what is written to one that is closed is gone. -/
def write (state : State) (descriptor : Nat) (octets : Octets) : State :=
  if octets = [] then state
  else
    match state.descriptors.lookup descriptor with
    | none => state
    | some number =>
        match state.channels[number]? with
        | some (.stream stream) => { state with console := state.console.write stream octets }
        | some (.sink written) => state.setChannel number (.sink (octets :: written))
        | some (.file location offset appends) =>
            match state.console.files.node? location with
            | some (.file mode bytes) =>
                let content := Octets.ofBytes bytes
                let offset := if appends then content.length else offset
                let content := overwritten content octets offset
                let files := state.console.files.put location (.file mode (Octets.toBytes content))
                { state with console := { state.console with files } }.setChannel number
                  (.file location (offset + octets.length) appends)
            | _ => state
        | _ => state

def readable (state : State) (descriptor : Nat) : Octets :=
  match state.channel? descriptor with
  | some .input => state.console.input
  | some (.source rest) => rest
  | some (.file location offset _) =>
      match state.console.files.node? location with
      | some (.file _ bytes) => (Octets.ofBytes bytes).drop offset
      | _ => []
  | _ => []

/-- Whether what was read too early from a descriptor can be given back. -/
def rewinds (state : State) (descriptor : Nat) : Bool :=
  match state.channel? descriptor with
  | some .input => state.console.rewinds
  | some (.file _ _ _) => true
  | _ => false

def consume (state : State) (descriptor count : Nat) : State :=
  match state.descriptors.lookup descriptor with
  | none => state
  | some number =>
      match state.channels[number]? with
      | some .input =>
          { state with console := { state.console with input := state.console.input.drop count } }
      | some (.source rest) => state.setChannel number (.source (rest.drop count))
      | some (.file location offset appends) =>
          state.setChannel number (.file location (offset + count) appends)
      | _ => state

def collected (state : State) (number : Nat) : Octets :=
  match state.channels[number]? with
  | some (.sink written) => written.reverse.flatten
  | _ => []

/-! What a shell tells. -/

def opening (state : State) : Octets :=
  match state.dialect with
  | .plain => state.title ++ ": ".toList ++ Decimal.digits state.line ++ ": ".toList
  | .extended => state.title ++ ": line ".toList ++ Decimal.digits state.line ++ ": ".toList

def complain (state : State) (text : Octets) : State :=
  let named :=
    match state.commandName with
    | some name => name ++ ": ".toList
    | none => []
  state.write 2 (state.opening ++ named ++ text ++ ['\n'])

end State

namespace Run

def warn (text : Octets) : Run Unit :=
  modify fun state => state.complain text

def failureStatus : Nat := 2

def fail {α : Type} (text : Octets) : Run α := do
  warn text
  modify fun state => { state with status := failureStatus }
  throw .fail

/-- Writes to the output of the command, and takes note if there is none. -/
def print (octets : Octets) : Run Unit :=
  modify fun state =>
    let lacks :=
      match state.channel? 1 with
      | none | some .input | some (.source _) => octets != []
      | _ => false
    { state.write 1 octets with lostOutput := state.lostOutput || lacks }

/-- Assigns to a variable, unless it can only be read. -/
def assign (name value : Octets) : Run Unit := do
  let state ← get
  match state.held? name with
  | some held =>
      if held.readOnly then
        fail (name ++ (match state.dialect with
          | .plain => ": is read only"
          | .extended => ": readonly variable").toList)
      else set (state.setValue name value)
  | none => set (state.setValue name value)

end Run

end CuratedHistory.Host.Shell
