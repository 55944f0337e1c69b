import CuratedHistory.Text.Utf8

namespace CuratedHistory

/-! Files and directories below a root, with a working directory from which
relative paths start. Paths are followed piece by piece, so that every piece but
the last must be a directory that exists. -/

/-- Why an operation on a file, or the start of a program, fails. -/
inductive FileError where
  | notFound
  | permissionDenied
  | notDirectory
  | isDirectory
  | badProgram
  | nameTooLong
  | nulInPath
  | notText
  deriving DecidableEq, Repr

def FileError.message : FileError → Text
  | .notFound => "No such file or directory (os error 2)".toList
  | .permissionDenied => "Permission denied (os error 13)".toList
  | .notDirectory => "Not a directory (os error 20)".toList
  | .isDirectory => "Is a directory (os error 21)".toList
  | .badProgram => "Exec format error (os error 8)".toList
  | .nameTooLong => "File name too long (os error 36)".toList
  | .nulInPath => "file name contained an unexpected NUL byte".toList
  | .notText => "stream did not contain valid UTF-8".toList

inductive Node where
  | directory
  /-- The mode holds the permission bits. -/
  | file (mode : Nat) (content : Bytes)
  /-- Reads as empty, and whatever is written to it is gone. -/
  | sink
  deriving DecidableEq, Repr

abbrev Location := List Text

structure FileSystem where
  workingDirectory : Location
  nodes : List (Location × Node)
  deriving DecidableEq, Repr

namespace FileSystem

/-- What stands at a location; the root is always a directory. -/
def node? (files : FileSystem) (location : Location) : Option Node :=
  if location = [] then some .directory
  else (files.nodes.find? (·.1 == location)).map Prod.snd

def put (files : FileSystem) (location : Location) (node : Node) : FileSystem :=
  if files.nodes.any (·.1 == location) then
    { files with
      nodes := files.nodes.map fun entry =>
        if entry.1 == location then (location, node) else entry }
  else { files with nodes := files.nodes ++ [(location, node)] }

def remove (files : FileSystem) (location : Location) : FileSystem :=
  { files with nodes := files.nodes.filter (·.1 != location) }

def longestName : Nat := 255

def longestPath : Nat := 4095

def step (files : FileSystem) (location : Location) (piece : Text) :
    Except FileError Location :=
  match files.node? location with
  | none => .error .notFound
  | some (.file _ _) | some .sink => .error .notDirectory
  | some .directory =>
      if piece = ['.'] then .ok location
      else if piece = ['.', '.'] then .ok location.dropLast
      else if longestName < Text.byteLength piece then .error .nameTooLong
      else .ok (location ++ [piece])

/-- The pieces of a path; a separator at the end asks for a directory. -/
def pathPieces (path : Text) : List Text :=
  (Text.pieces '/' path).filter (· ≠ []) ++ (if path.getLast? = some '/' then [['.']] else [])

/-- The location that a path leads to, whether or not something stands there. -/
def locate (files : FileSystem) (path : Text) : Except FileError Location :=
  if '\x00' ∈ path then .error .nulInPath
  else if path = [] then .error .notFound
  else if longestPath < Text.byteLength path then .error .nameTooLong
  else
    (pathPieces path).foldlM files.step
      (if path.head? = some '/' then [] else files.workingDirectory)

def find (files : FileSystem) (path : Text) : Except FileError Node :=
  match files.locate path with
  | .error error => .error error
  | .ok location =>
      match files.node? location with
      | some node => .ok node
      | none => .error .notFound

def pathExists (files : FileSystem) (path : Text) : Bool :=
  match files.find path with
  | .ok _ => true
  | .error _ => false

def isDirectory (files : FileSystem) (path : Text) : Bool :=
  match files.find path with
  | .ok .directory => true
  | _ => false

def isFile (files : FileSystem) (path : Text) : Bool :=
  match files.find path with
  | .ok (.file _ _) => true
  | _ => false

def isExecutable (files : FileSystem) (path : Text) : Bool :=
  match files.find path with
  | .ok (.file mode _) => mode % 2 == 1 || mode / 8 % 2 == 1 || mode / 64 % 2 == 1
  | _ => false

def read (files : FileSystem) (path : Text) : Except FileError Bytes :=
  match files.find path with
  | .ok (.file _ content) => .ok content
  | .ok .sink => .ok []
  | .ok .directory => .error .isDirectory
  | .error error => .error error

def readText (files : FileSystem) (path : Text) : Except FileError Text :=
  match files.read path with
  | .error error => .error error
  | .ok content =>
      match Utf8.decode? content with
      | some text => .ok text
      | none => .error .notText

def newFileMode : Nat := 420

/-- The path without the separators at its end. -/
def withoutFinalSeparators (path : Text) : Text :=
  (path.reverse.dropWhile (· == '/')).reverse

/-- Whether a path ends with a name and a separator after it. -/
def endsAsDirectory (path : Text) : Bool :=
  path.getLast? == some '/' &&
    match ((Text.pieces '/' path).filter (· ≠ [])).getLast? with
    | none => false
    | some piece => piece != ['.'] && piece != ['.', '.']

/-- What can be written to: a file or a free name in a directory, with the mode of
the file, or a place where everything is swallowed. -/
inductive Writable where
  | file (location : Location) (mode : Nat)
  | sink
  deriving DecidableEq, Repr

/-- Where a path can be written to. A name with a separator after it is taken for a
directory, whatever stands there. -/
def writable (files : FileSystem) (path : Text) : Except FileError Writable :=
  if endsAsDirectory path then
    match files.locate (withoutFinalSeparators path) with
    | .error error => .error error
    | .ok _ => .error .isDirectory
  else
    match files.locate path with
    | .error error => .error error
    | .ok location =>
        match files.node? location with
        | some .directory => .error .isDirectory
        | some (.file mode _) => .ok (.file location mode)
        | some .sink => .ok .sink
        | none => .ok (.file location newFileMode)

/-- The files after the content of one is replaced. A file that exists keeps its
mode. -/
def write (files : FileSystem) (path : Text) (content : Bytes) :
    Except FileError FileSystem :=
  match files.writable path with
  | .error error => .error error
  | .ok .sink => .ok files
  | .ok (.file location mode) => .ok (files.put location (.file mode content))

/-- The files with a directory at a location and all directories above it. -/
def makeDirectories (files : FileSystem) (location : Location) : FileSystem :=
  ((List.range location.length).map fun n => location.take (n + 1)).foldl
    (fun files above =>
      match files.node? above with
      | some _ => files
      | none => files.put above .directory)
    files

end FileSystem

end CuratedHistory
