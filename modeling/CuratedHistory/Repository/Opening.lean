import CuratedHistory.Files.FileSystem
import CuratedHistory.Repository.Basic
import CuratedHistory.Repository.Error

namespace CuratedHistory

/-! Where repositories are found. The data of a repository lie in a directory, which
stands under a fixed name in the directory that the repository belongs to. A file of
that name leads to data that lie elsewhere. -/

abbrev Repositories := Location → Option Repository

def dataName : Text := ".git".toList

def Repository.empty : Repository where
  commits := []
  references := []
  head := none

/-- What is found at one place of a search. -/
inductive DataSighting where
  | nothing
  | data (location : Location)
  /-- A file that does not lead anywhere; the search ends at it. -/
  | strayLink
  deriving DecidableEq, Repr

namespace FileSystem

/-- The names without which a directory is not the data of a repository: a file, and
then two directories. -/
def holdsData (files : FileSystem) (location : Location) : Bool :=
  let isDirectoryAt (name : String) : Bool :=
    files.node? (location ++ [name.toList]) == some .directory
  (match files.node? (location ++ ["HEAD".toList]) with
    | some (.file _ _) => true
    | _ => false) && isDirectoryAt "objects" && isDirectoryAt "refs"

/-- The files with the data of a repository in a directory. What is stored there is
told by the repository itself, and not by the contents of these files. -/
def withData (files : FileSystem) (directory : Location) : FileSystem :=
  let placeOf (path : String) : Location :=
    directory ++ dataName :: Text.pieces '/' path.toList
  let directories :=
    ["hooks", "info", "objects/info", "objects/pack", "refs/heads", "refs/tags"].foldl
      (fun (files : FileSystem) path => files.makeDirectories (placeOf path)) files
  ["HEAD", "config", "description", "info/exclude"].foldl
    (fun (files : FileSystem) path => files.put (placeOf path) (.file newFileMode [])) directories

def isLinkBlank (c : Char) : Bool :=
  c = ' ' || ('\t' ≤ c && c ≤ '\r')

def linkStart : Text := "gitdir:".toList

def linkPath? (content : Bytes) : Option Text :=
  let text := ((Utf8.decodeLenient content).reverse.dropWhile isLinkBlank).reverse
  (Text.after? linkStart text).map (·.dropWhile isLinkBlank)

/-- The location that a link in a directory leads to, if it leads to something. -/
def linkTarget? (files : FileSystem) (directory : Location) (content : Bytes) :
    Option Location :=
  (linkPath? content).bind fun path =>
    match { files with workingDirectory := directory }.locate path with
    | .ok location => if (files.node? location).isSome then some location else none
    | .error _ => none

def sighting (files : FileSystem) (location : Location) : DataSighting :=
  match files.node? location with
  | some .directory => if files.holdsData location then .data location else .nothing
  | some (.file _ content) =>
      if location.getLast? = some dataName then
        match files.linkTarget? location.dropLast content with
        | none => .strayLink
        | some target => if files.holdsData target then .data target else .nothing
      else .nothing
  | some .sink | none => .nothing

def firstData? (files : FileSystem) : List Location → Option Location
  | [] => none
  | place :: rest =>
      match files.sighting place with
      | .data location => some location
      | .strayLink => none
      | .nothing => files.firstData? rest

end FileSystem

namespace Repositories

/-- A location and all above it, the root last. -/
def upwards (location : Location) : List Location :=
  ((List.range (location.length + 1)).map location.take).reverse

def placesFor (location : Location) : List Location :=
  [location ++ [dataName], location]

def existing? (files : FileSystem) (path : Text) : Option Location :=
  match files.locate path with
  | .error _ => none
  | .ok location => if files.pathExists path then some location else none

def withData (repositories : Repositories) (location : Location) : Repository :=
  (repositories location).getD .empty

/-- The repository at a path itself. -/
def openAt (repositories : Repositories) (files : FileSystem) (path : Text) :
    Except RepositoryError Repository :=
  match (existing? files path).bind fun location => files.firstData? (placesFor location) with
  | some data => .ok (repositories.withData data)
  | none => .error (.notFound path)

/-- The nearest repository at or above a path. Its data are opened by their own
location. -/
def discover (repositories : Repositories) (files : FileSystem) (path : Text) :
    Except RepositoryError Repository :=
  match ((existing? files path).bind fun location =>
      files.firstData? ((upwards location).flatMap placesFor)).bind fun data =>
        files.firstData? (placesFor data) with
  | some data => .ok (repositories.withData data)
  | none => .error (.notFound path)

end Repositories

end CuratedHistory
