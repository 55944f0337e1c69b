import CuratedHistory.Host.Programs.Standard

namespace CuratedHistory.Host

/-! A machine to run on, with the standard programs in its directories of programs and an
empty working directory. A file can be run if it is one of these programs, or a script that
names what runs it. What is said of reports and runs elsewhere is said of any machine, so that
nothing but a trial needs this one. -/

/-- The first bytes of a program that is not a script. -/
def binaryMark : Bytes :=
  0x7F :: Utf8.encode "ELF".toList

def binary (name : Text) : Bytes :=
  binaryMark ++ Utf8.encode name

def binaryName? (content : Bytes) : Option Text :=
  if binaryMark.isPrefixOf content then Utf8.decode? (content.drop binaryMark.length) else none

def isGap (c : Char) : Bool :=
  c = ' ' || c = '\t'

/-- The interpreter on the first line of a script, and its argument if there is one. -/
def interpreter? (content : Octets) : Option (Octets × List Octets) :=
  match content with
  | '#' :: '!' :: rest =>
      let line := (rest.takeWhile (· ≠ '\n')).dropWhile isGap
      let line := (line.reverse.dropWhile isGap).reverse
      match Text.splitAtFirst isGap line with
      | ([], _) => none
      | (program, rest) =>
          let argument := rest.dropWhile isGap
          some (program, if argument = [] then [] else [argument])
  | _ => none

/-- Starts the file at a path. The number bounds how often one script is run by another
file, or starts one. -/
def launch : Nat → Launcher
  | 0 => fun _ _ _ _ => .error .badProgram
  | depth + 1 => fun path name words console =>
      match console.node? path with
      | .error cause => .error cause
      | .ok .directory | .ok .sink => .error .permissionDenied
      | .ok (.file _ content) =>
          if !console.files.isExecutable (Octets.toText path) then .error .permissionDenied
          else
            match binaryName? content with
            | some binary =>
                match (Programs.standard (launch depth)).find? (·.1.toList == binary) with
                | some entry => .ok (entry.2 name words console)
                | none => .error .badProgram
            | none =>
                match interpreter? (Octets.ofBytes content) with
                | none => .error .badProgram
                | some (interpreter, options) =>
                    launch depth interpreter interpreter (options ++ path :: words) console

def startLimit : Nat := 1000

def searchPath : Text :=
  "/usr/bin:/bin".toList

def programs : Programs := fun path name arguments input files =>
  let console := Console.start (Octets.ofBytes input) files
    [("PATH".toList, Octets.ofText searchPath)]
  (launch startLimit (Octets.ofText path) (Octets.ofText name) (arguments.map Octets.ofText)
    console).map fun (after, status) =>
      let outcome := after.outcome status
      { outcome with
        files := { outcome.files with workingDirectory := files.workingDirectory } }

def scratchPath : Text :=
  "/tmp/curated-history.html".toList

def machine : Machine where
  searchPath := some searchPath
  programs := programs
  scratchPath := scratchPath

def workingDirectory : Location :=
  ["tmp", "work"].map String.toList

def programMode : Nat := 493

/-- The files of the machine before anything is written. -/
def files : FileSystem :=
  let directories := [["tmp"], ["tmp", "work"], ["usr"], ["usr", "bin"], ["bin"], ["dev"],
    ["etc"], ["home"]].map fun names => (names.map String.toList, Node.directory)
  let binaries := Programs.names.flatMap fun name =>
    [["usr".toList, "bin".toList, name], ["bin".toList, name]].map fun location =>
      (location, Node.file programMode (binary name))
  { workingDirectory
    nodes := directories ++ (["dev", "null"].map String.toList, Node.sink) :: binaries }

end CuratedHistory.Host
