import Std.Time.DateTime.Timestamp
import CuratedHistory.CommandLine.Run
import CuratedHistory.Repository.Listing

open CuratedHistory

namespace Terminal

/-! The program on a terminal. It finds out what a run can see, and afterwards
prints what the run prints and writes the files that it changes. No other program
is started: converters count as missing, an editor as one that cannot be started.
The repository of a directory is read from two listings among its data, which are
made by `git cat-file --batch-all-objects --batch > .git/objects.list` and
`git show-ref > .git/refs.list`. -/

def objectsName : Text := "objects.list".toList

def referencesName : Text := "refs.list".toList

def headName : Text := "HEAD".toList

def pathOf (location : Location) : String :=
  String.ofList ('/' :: Text.join ['/'] location)

def probe (location : Location) : IO (Option Node) := do
  try
    let content ← IO.FS.readBinFile (pathOf location)
    return some (.file FileSystem.newFileMode content.toList)
  catch error =>
    match error with
    | .inappropriateType _ _ _ => return some .directory
    | _ => return none

def probeAlong (files : FileSystem) (location : Location) : IO FileSystem :=
  ((List.range location.length).map fun n => location.take (n + 1)).foldlM
    (fun files above => do
      if (files.node? above).isSome then return files
      match ← probe above with
      | some node => return files.put above node
      | none => return files)
    files

/-- The location that a path leads to if every piece of it is a name. -/
def locationOf (workingDirectory : Location) (path : Text) : Location :=
  (FileSystem.pathPieces path).foldl
    (fun location piece =>
      if piece = ['.'] then location
      else if piece = ['.', '.'] then location.dropLast
      else location ++ [piece])
    (if path.head? = some '/' then [] else workingDirectory)

def pathsOf (settings : Settings) : List Text :=
  settings.repository.toList ++ settings.output.toList ++
    match settings.source with
    | .file path => [path]
    | _ => []

def readBytes (location : Location) : IO Bytes := do
  match ← probe location with
  | some (.file _ content) => return content
  | _ => return []

def repositoryWithData (data : Location) : IO Repository := do
  let head ← readBytes (data ++ [headName])
  let objects ← readBytes (data ++ [objectsName])
  let references ← readBytes (data ++ [referencesName])
  return Repository.ofListings objects (Utf8.decodeLenient references) (Utf8.decodeLenient head)

/-- The files with all that a search for a repository looks at, links included. -/
def probeData (files : FileSystem) (location : Location) : IO FileSystem := do
  let parts := ["HEAD", "objects", "refs"].map String.toList
  let places := (Repositories.upwards location).flatMap Repositories.placesFor
  let files ← (places ++ places.flatMap fun place => parts.map fun part => place ++ [part]).foldlM
    probeAlong files
  let targets := places.filterMap fun place =>
    match files.node? place with
    | some (.file _ content) =>
        (FileSystem.linkPath? content).map (locationOf place.dropLast)
    | _ => none
  (targets.flatMap fun place => parts.map fun part => place ++ [part]).foldlM probeAlong files

def names : List Text :=
  (CommandForm.report.options.filterMap (·.standIn)) ++ ["VISUAL", "EDITOR"].map String.toList

def environment : IO (Text → Option Text) := do
  let values ← names.mapM fun name => do return (name, ← IO.getEnv (String.ofList name))
  return fun name =>
    ((values.find? (·.1 == name)).bind Prod.snd).map String.toList

def writeChanges (before after : FileSystem) : IO Unit :=
  after.nodes.forM fun (location, node) => do
    match node with
    | .directory | .sink => return
    | .file _ content =>
        if before.node? location != some node then
          IO.FS.writeBinFile (pathOf location) ⟨content.toArray⟩

/-- Whether the plan comes from the standard input, by whatever name. -/
def readsInput (workingDirectory : Location) (settings : Settings) : Bool :=
  match settings.source with
  | .standardInput => true
  | .file path => Settings.inputPlaces.contains (locationOf workingDirectory path)
  | .default | .edit => false

def standardInput (workingDirectory : Location) (settings : Settings) : IO Bytes := do
  if readsInput workingDirectory settings then
    return (← (← IO.getStdin).readBinToEnd).toList
  else return []

def now : IO Instant := do
  return Instant.ofSeconds (← Std.Time.Timestamp.now).toSecondsSinceUnixEpoch.val

def surroundings (environment : Text → Option Text) (settings : Settings) : IO Surroundings := do
  let workingDirectory := locationOf [] ((← IO.getEnv "PWD").getD "/").toList
  let locations := workingDirectory :: (pathsOf settings).map (locationOf workingDirectory)
  let files ← locations.foldlM probeAlong { workingDirectory, nodes := [] }
  let location := locationOf workingDirectory settings.repositoryPath
  let files ← probeData files location
  let found ← (files.firstData? ((Repositories.upwards location).flatMap
    Repositories.placesFor)).mapM fun data => do return (data, ← repositoryWithData data)
  return {
    files
    machine := {
      searchPath := none
      programs := fun _ _ _ _ _ => .error .notFound
      scratchPath := "/tmp/curated-history.html".toList }
    repositories := fun location =>
      (found.filter (·.1 = location)).map Prod.snd
    environment
    standardInput := ← standardInput workingDirectory settings
    editors := Editor.missing
    now := ← now }

def start (arguments : List Text) : IO UInt32 := do
  let environment ← environment
  match Settings.ofArguments environment arguments with
  | .error error => return error.exitCode.toUInt32
  | .ok settings =>
      let surroundings ← surroundings environment settings
      let result := run surroundings arguments
      writeChanges surroundings.files result.files
      IO.print (String.ofList result.output)
      IO.eprint (String.ofList result.errors)
      return result.code.toUInt32

end Terminal

def main (arguments : List String) : IO UInt32 :=
  Terminal.start (arguments.map String.toList)
