import CuratedHistory.Programs.Converter
import CuratedHistory.Host.Text.Octets

namespace CuratedHistory

/-! What a program works on: its input, what it writes, the files and the variables
that it was given. -/

/-- The cause of a failure without its number. -/
def FileError.plainMessage (cause : FileError) : Text :=
  match Text.splitAtFirst (· == '(') cause.message with
  | (text, []) => text
  | (text, _) => Text.trimEnd text

namespace Host

inductive OutputStream where
  | output
  | errors
  deriving DecidableEq, Repr

structure Console where
  /-- What is left to read. -/
  input : Octets
  /-- Whether input that was read too early can be given back. -/
  rewinds : Bool
  /-- What has been written, the latest first. -/
  writings : List (OutputStream × Octets)
  files : FileSystem
  bindings : List (Octets × Octets)
  /-- The signal that has ended the program. -/
  killedBy : Option Nat

/-- A program as a function of the name that it is called by and its arguments; it
gives its status. -/
abbrev Program := Octets → List Octets → Console → Console × Nat

/-- How a file is started: by its path, the name that the program is called by and
its arguments. -/
abbrev Launcher := Octets → Octets → List Octets → Console → Except FileError (Console × Nat)

namespace Console

def start (input : Octets) (files : FileSystem) (bindings : List (Octets × Octets)) : Console where
  input
  rewinds := false
  writings := []
  files
  bindings
  killedBy := none

def held? (console : Console) (name : String) : Option Octets :=
  (console.bindings.find? (·.1 == name.toList)).map Prod.snd

def write (console : Console) (stream : OutputStream) (octets : Octets) : Console :=
  if octets = [] then console
  else { console with writings := (stream, octets) :: console.writings }

def print (console : Console) (octets : Octets) : Console :=
  console.write .output octets

def complain (console : Console) (line : Octets) : Console :=
  console.write .errors (line ++ ['\n'])

def readAll (console : Console) : Octets × Console :=
  (console.input, { console with input := [] })

def writtenTo (console : Console) (stream : OutputStream) : Octets :=
  ((console.writings.filter (·.1 = stream)).reverse.map Prod.snd).flatten

def outcome (console : Console) (status : Nat) : Outcome where
  ending :=
    match console.killedBy with
    | some signal => .killed signal
    | none => .exited status
  output := Octets.toBytes (console.writtenTo .output)
  errors := Octets.toBytes (console.writtenTo .errors)
  files := console.files

/-! Files by paths of octets. -/

def node? (console : Console) (path : Octets) : Except FileError Node :=
  console.files.find (Octets.toText path)

def isDirectory (console : Console) (path : Octets) : Bool :=
  console.files.isDirectory (Octets.toText path)

def readFile (console : Console) (path : Octets) : Except FileError Octets :=
  (console.files.read (Octets.toText path)).map Octets.ofBytes

def writeFile (console : Console) (path content : Octets) : Except FileError Console :=
  (console.files.write (Octets.toText path) (Octets.toBytes content)).map
    fun files => { console with files }

/-- The content of an operand; a dash stands for the input. -/
def readOperand (console : Console) (path : Octets) : Except FileError Octets × Console :=
  if path = ['-'] then
    let (octets, console) := console.readAll
    (.ok octets, console)
  else (console.readFile path, console)

/-- Does something for each item in turn, and gives the greatest status. -/
def forEach {α : Type} (console : Console) (items : List α)
    (perform : α → Console → Console × Nat) : Console × Nat :=
  items.foldl
    (fun (console, status) item =>
      let (console, next) := perform item console
      (console, max status next))
    (console, 0)

end Console

/-- Lines with the line feeds at their ends, which the last one may lack. -/
def endedLines : Octets → List Octets
  | [] => []
  | c :: rest =>
      if c = '\n' then ['\n'] :: endedLines rest
      else
        match endedLines rest with
        | [] => [[c]]
        | line :: following => (c :: line) :: following

/-- The line without a line feed at its end. -/
def withoutLineFeed (line : Octets) : Octets :=
  if line.getLast? = some '\n' then line.dropLast else line

end Host

end CuratedHistory
