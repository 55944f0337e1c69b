import CuratedHistory.Host.Programs.Options
import CuratedHistory.Host.Programs.Quoting

namespace CuratedHistory

/-! Copying, moving, making and removing files. -/

namespace FileSystem

/-- What stands below a directory, at any depth. -/
def below (files : FileSystem) (location : Location) : List (Location × Node) :=
  files.nodes.filter fun entry => location.isPrefixOf entry.1 && entry.1 != location

/-- The files without what stands at a location and below it. -/
def removeAll (files : FileSystem) (location : Location) : FileSystem :=
  { files with nodes := files.nodes.filter fun entry => !location.isPrefixOf entry.1 }

def namesIn (files : FileSystem) (location : Location) : List Text :=
  (files.below location).filterMap fun entry =>
    match entry.1.drop location.length with
    | [name] => some name
    | _ => none

end FileSystem

namespace Host

namespace Programs

/-- A file or a directory that an operand names. -/
structure Found where
  location : Location
  node : Node

namespace Filing

def find (console : Console) (path : Octets) : Except FileError Found :=
  match console.files.locate (Octets.toText path) with
  | .error cause => .error cause
  | .ok location =>
      match console.files.node? location with
      | some node => .ok { location, node }
      | none => .error .notFound

def place (console : Console) (path : Octets) : Except FileError Location :=
  console.files.locate (FileSystem.withoutFinalSeparators (Octets.toText path))

/-- The last piece of a path, without separators at its end. -/
def lastPiece (path : Octets) : Octets :=
  let trimmed := (path.reverse.dropWhile (· == '/')).reverse
  if trimmed = [] then path.take 1
  else (Text.splitAtFirst (· == '/') trimmed.reverse).1.reverse

def inside (directory name : Octets) : Octets :=
  if directory.getLast? = some '/' then directory ++ name else directory ++ '/' :: name

def asDirectory (found : Except FileError Found) : Bool :=
  match found with
  | .ok found => found.node == .directory
  | .error _ => false

/-- What a word tells about something that stands there already. -/
inductive Backup where
  | never
  | simple
  | numbered
  | existing
  deriving DecidableEq, Repr

/-- Why a word is none of those that an option takes. -/
inductive WordProblem where
  | unknown
  | ambiguous
  deriving DecidableEq, Repr

/-- The value of a word, or of all the words that it is short for. -/
def chosen {α : Type} [DecidableEq α] (words : List (String × α)) (word : Octets) :
    Except WordProblem α :=
  match words.find? (·.1.toList == word) with
  | some found => .ok found.2
  | none =>
      match (words.filter fun entry => word.isPrefixOf entry.1.toList).map Prod.snd with
      | [] => .error .unknown
      | first :: rest => if rest.all (· == first) then .ok first else .error .ambiguous

/-- What is said about a word that an option does not take. -/
def WordProblem.text (problem : WordProblem) (word : Octets) (option : String)
    (words : List String) : Octets :=
  (match problem with
    | .unknown => "invalid"
    | .ambiguous => "ambiguous").toList ++ " argument ".toList ++ Quoting.between word ++
    " for '".toList ++ option.toList ++ "'\nValid arguments are:".toList ++
    words.flatMap fun line => "\n  - ".toList ++ line.toList

def Backup.words : List (String × Backup) :=
  [("none", .never), ("off", .never), ("simple", .simple), ("never", .simple),
    ("numbered", .numbered), ("t", .numbered), ("existing", .existing), ("nil", .existing)]

/-- What is done where something stands already. -/
inductive Collision where
  | replace
  | ask
  /-- Goes on without a word. -/
  | skip
  | refuse
  deriving DecidableEq, Repr

/-- What a copy is. -/
inductive CopyKind where
  | content
  /-- Another name for the same file. -/
  | hardLink
  | symbolicLink
  /-- A file without the content. -/
  | attributes
  /-- A file that shares its content, which cannot be had here. -/
  | clone
  deriving DecidableEq, Repr

/-- How files are copied or moved. -/
structure Manner where
  moves : Bool
  recursive : Bool
  kind : CopyKind
  collision : Collision
  /-- Whether a link takes the place of what stands there. -/
  forces : Bool
  parents : Bool
  backup : Backup
  suffix : Octets
  tells : Bool
  directory : Option Octets
  treatsAsFile : Bool

def backupNumbers (console : Console) (location : Location) : List Nat :=
  let start := (location.getLast?.getD []) ++ ".~".toList
  (console.files.namesIn location.dropLast).filterMap fun name =>
    (Text.after? start name).bind fun rest => (Text.before? ['~'] rest).bind Decimal.read?

/-- What is put after the path of a file that is kept. -/
def Manner.backupSuffix? (manner : Manner) (console : Console) (location : Location) :
    Option Octets :=
  let numbers := backupNumbers console location
  let numbered := ".~".toList ++ Decimal.digits (numbers.foldl max 0 + 1) ++ ['~']
  match manner.backup with
  | .never => none
  | .simple => some manner.suffix
  | .numbered => some numbered
  | .existing => some (if numbers = [] then manner.suffix else numbered)

def relocate (files : FileSystem) (source target : Location) : FileSystem :=
  { files with nodes := (files.removeAll target).nodes.map fun entry =>
      if source.isPrefixOf entry.1 then (target ++ entry.1.drop source.length, entry.2)
      else entry }

def duplicate (files : FileSystem) (source target : Location) : FileSystem :=
  ((files.node? source).toList.map (source, ·) ++ files.below source).foldl
    (fun files entry => files.put (target ++ entry.1.drop source.length) entry.2) files

/-- The files with the content of one file in place of that of another. -/
def overwrite (files : FileSystem) (source target : Location) : FileSystem :=
  match files.node? source, files.node? target with
  | some (.file _ content), some (.file mode _) => files.put target (.file mode content)
  | some (.file mode content), none => files.put target (.file mode content)
  | some .sink, some (.file mode _) => files.put target (.file mode [])
  | some .sink, none => files.put target (.file FileSystem.newFileMode [])
  | _, _ => files

def cannot (name : Octets) (verb : String) (path : Octets) (cause : FileError) : Octets :=
  name ++ ": cannot ".toList ++ verb.toList ++ [' '] ++ Quoting.forShell path ++ ": ".toList ++
    cause.plainMessage

/-- Copies or moves one file or directory to a path that is not taken, or to a file. -/
def Manner.transfer (manner : Manner) (name source target : Octets) (found : Found)
    (console : Console) : Console × Nat :=
  match place console target with
  | .error cause =>
      let cause := if target.getLast? = some '/' ∧ cause = .isDirectory then .notDirectory else cause
      if manner.moves then
        console.fail name ("cannot move ".toList ++ Quoting.forShell source ++ " to ".toList ++
          Quoting.forShell target ++ ": ".toList ++ cause.plainMessage) 1
      else if found.node = .directory then
        (console.complain (cannot name "create directory" target cause), 1)
      else (console.complain (cannot name "create regular file" target cause), 1)
  | .ok location =>
      if target.getLast? = some '/' ∧ found.node ≠ .directory then
        if manner.moves then
          console.fail name ("cannot move ".toList ++ Quoting.forShell source ++ " to ".toList ++
            Quoting.forShell target ++ ": Not a directory".toList) 1
        else (console.complain (cannot name "create regular file" target .notDirectory), 1)
      else if found.location.isPrefixOf location ∧ found.location ≠ location ∧
          found.node = .directory then
        console.fail name
          (if manner.moves then
            "cannot move ".toList ++ Quoting.forShell source ++
              " to a subdirectory of itself, ".toList ++ Quoting.forShell target
          else
            "cannot copy a directory, ".toList ++ Quoting.forShell source ++
              ", into itself, ".toList ++ Quoting.forShell target) 1
      else if manner.kind = .clone ∧ !manner.moves ∧ found.node ≠ .directory then
        let fresh := (console.files.node? location).isNone
        let console :=
          if fresh then console
          else { console with files := console.files.put location (.file FileSystem.newFileMode []) }
        console.fail name ("failed to clone ".toList ++ Quoting.forShell target ++
          " from ".toList ++ Quoting.forShell source ++ ": Operation not supported".toList) 1
      else
        let files :=
          if manner.kind = .attributes ∧ found.node ≠ .directory then
            match console.files.node? location with
            | some _ => console.files
            | none => console.files.put location (.file FileSystem.newFileMode [])
          else if manner.moves then relocate console.files found.location location
          else if found.node = .directory then duplicate console.files found.location location
          else overwrite console.files found.location location
        let console := { console with files }
        if manner.tells then
          (console.print ((if manner.moves then "renamed ".toList else []) ++
            Quoting.forShell source ++ " -> ".toList ++ Quoting.forShell target ++ ['\n']), 0)
        else (console, 0)

def putAside (console : Console) (location : Location) (suffix : Octets) : Console :=
  let aside := location.dropLast ++ [(location.getLast?.getD []) ++ Octets.toText suffix]
  { console with files := relocate console.files location aside }

def agrees (console : Console) : Bool × Console :=
  let line := console.input.takeWhile (· != '\n')
  (line.head?.any fun c => c = 'y' || c = 'Y',
    { console with input := console.input.drop (line.length + 1) })

def linkWord? : CopyKind → Option String
  | .hardLink => some "hard"
  | .symbolicLink => some "symbolic"
  | _ => none

def Manner.bring (manner : Manner) (name source target : Octets) (console : Console) :
    Console × Nat :=
  match find console source with
  | .error cause => (console.complain (cannot name "stat" source cause), 1)
  | .ok found =>
      if found.node = .directory ∧ !manner.moves ∧ !manner.recursive then
        console.fail name ("-r not specified; omitting directory ".toList ++
          Quoting.forShell source) 1
      else
        match find console target with
        | .error .notFound => manner.transfer name source target found console
        | .error cause => (console.complain (cannot name "stat" target cause), 1)
        | .ok taken =>
            if taken.location = found.location then
              if manner.backup ≠ .never ∧ manner.moves then (console, 0)
              else
                console.fail name (Quoting.forShell source ++ " and ".toList ++
                  Quoting.forShell target ++ " are the same file".toList) 1
            else if manner.collision = .skip then (console, 0)
            else if manner.collision = .refuse then
              console.fail name ("not replacing ".toList ++ Quoting.forShell target) 1
            else if taken.node = .directory ∧ found.node ≠ .directory then
              console.fail name ("cannot overwrite directory ".toList ++
                Quoting.forShell target ++ " with non-directory".toList) 1
            else if found.node = .directory ∧ taken.node ≠ .directory then
              console.fail name ("cannot overwrite non-directory ".toList ++
                Quoting.forShell target ++ " with directory ".toList ++
                Quoting.forShell source) 1
            else
              let (agreed, console) :=
                if manner.collision = .ask then
                  agrees (console.write .errors (name ++ ": overwrite ".toList ++
                    Quoting.forShell target ++ "? ".toList))
                else (true, console)
              if !agreed then (console, 1)
              else
                match manner.backupSuffix? console taken.location, linkWord? manner.kind with
                | some suffix, _ =>
                    manner.transfer name source target found
                      (putAside console taken.location suffix)
                | none, some word =>
                    if manner.forces ∨ manner.moves then
                      manner.transfer name source target found console
                    else
                      console.fail name ("cannot create ".toList ++ word.toList ++
                        " link ".toList ++ Quoting.forShell target ++ " to ".toList ++
                        Quoting.forShell source ++ ": File exists".toList) 1
                | none, none => manner.transfer name source target found console

def tooFew (name : Octets) (operands : List Octets) (console : Console) : Console × Nat :=
  match operands with
  | [] => console.failUsage name "missing file operand".toList 1
  | operand :: _ =>
      console.failUsage name ("missing destination file operand after ".toList ++
        Quoting.forShell operand) 1

def Manner.bringInto (manner : Manner) (name directory : Octets) (operands : List Octets)
    (console : Console) : Console × Nat :=
  console.forEach operands fun operand =>
    let piece := lastPiece operand
    let piece := if piece = ['.', '.'] then ['.'] else piece
    manner.bring name operand (inside directory piece)

/-- Copies or moves operands, the last of which is a directory or a path for the only
other one. -/
def Manner.run (manner : Manner) (name : Octets) (operands : List Octets) (console : Console) :
    Console × Nat :=
  match manner.directory with
  | some directory =>
      if operands = [] then tooFew name operands console
      else
        match find console directory with
        | .error cause =>
            console.fail name ("target directory ".toList ++ Quoting.forShell directory ++
              ": ".toList ++ cause.plainMessage) 1
        | .ok found =>
            if found.node = .directory then manner.bringInto name directory operands console
            else
              console.fail name ("target directory ".toList ++ Quoting.forShell directory ++
                ": Not a directory".toList) 1
  | none =>
      match operands with
      | [] | [_] => tooFew name operands console
      | source :: second :: rest =>
          let target := (second :: rest).getLast?.getD second
          if manner.treatsAsFile then
            match rest with
            | [] => manner.bring name source target console
            | extra :: _ =>
                console.failUsage name ("extra operand ".toList ++ Quoting.forShell extra) 1
          else
            let found := find console target
            if manner.parents ∧ !asDirectory found then
              console.failUsage name
                "with --parents, the destination must be a directory".toList 1
            else if asDirectory found then manner.bringInto name target operands.dropLast console
            else if rest = [] then manner.bring name source target console
            else
              let cause :=
                match found with
                | .ok _ => FileError.notDirectory
                | .error cause => cause
              console.fail name ("target ".toList ++ Quoting.forShell target ++ ": ".toList ++
                cause.plainMessage) 1

def Manner.start (moves : Bool) : Manner where
  moves
  recursive := moves
  kind := .content
  collision := .replace
  forces := false
  parents := false
  backup := .never
  suffix := ['~']
  tells := false
  directory := none
  treatsAsFile := false

def reflinkWords : List (String × String) :=
  ["auto", "always", "never"].map fun word => (word, word)

def attributeWords : List (String × String) :=
  ["mode", "timestamps", "ownership", "links", "context", "xattr", "all"].map fun word =>
    (word, word)

def updateWords : List (String × String) :=
  ["all", "none", "older"].map fun word => (word, word)

def Manner.withOption (manner : Manner) (option : String × Octets) : Except Octets Manner :=
  match option.1 with
  | "archive" | "recursive" | "R" => .ok { manner with recursive := true }
  | "no-clobber" => .ok { manner with collision := if manner.moves then .refuse else .skip }
  | "interactive" => .ok { manner with collision := .ask }
  | "force" =>
      .ok { manner with
        forces := true, collision := if manner.moves then .replace else manner.collision }
  | "remove-destination" => .ok { manner with forces := true }
  | "attributes-only" => .ok { manner with kind := .attributes }
  | "parents" => .ok { manner with parents := true }
  | "link" | "symbolic-link" =>
      let kind : CopyKind := if option.1 = "link" then .hardLink else .symbolicLink
      if linkWord? manner.kind = none ∨ manner.kind = kind then .ok { manner with kind }
      else .error "cannot make both hard and symbolic links".toList
  | "reflink" =>
      match chosen reflinkWords (if option.2 = [] then "always".toList else option.2) with
      | .ok always => .ok (if always = "always" then { manner with kind := .clone } else manner)
      | .error problem =>
          .error (problem.text option.2 "--reflink" ["'auto'", "'always'", "'never'"])
  | "sparse" =>
      match chosen reflinkWords option.2 with
      | .ok _ => .ok manner
      | .error problem =>
          .error (problem.text option.2 "--sparse" ["'never'", "'auto'", "'always'"])
  | "preserve" | "no-preserve" =>
      if option.1 = "preserve" ∧ option.2 = [] then .ok manner
      else
        match (Text.pieces ',' option.2).findSome? fun word =>
          match chosen attributeWords word with
          | .ok _ => none
          | .error problem => some (problem, word) with
        | none => .ok manner
        | some (problem, word) =>
            .error (problem.text word ("--" ++ option.1)
              (attributeWords.map fun entry => "'" ++ entry.1 ++ "'"))
  | "update" =>
      if option.2 = [] then .ok manner
      else
        match chosen updateWords option.2 with
        | .ok word => .ok (if word = "none" then { manner with collision := .skip } else manner)
        | .error problem =>
            .error (problem.text option.2 "--update" ["'all'", "'none'", "'older'"])
  | "b" => .ok { manner with backup := .existing }
  | "backup" =>
      if option.2 = [] then .ok { manner with backup := .existing }
      else
        match chosen Backup.words option.2 with
        | .ok backup => .ok { manner with backup }
        | .error problem =>
            .error (problem.text option.2 "backup type"
              ["'none', 'off'", "'simple', 'never'", "'existing', 'nil'", "'numbered', 't'"])
  | "suffix" =>
      .ok { manner with
        suffix := option.2
        backup := if manner.backup = .never then .existing else manner.backup }
  | "verbose" => .ok { manner with tells := true }
  | "target-directory" => .ok { manner with directory := some option.2 }
  | "no-target-directory" => .ok { manner with treatsAsFile := true }
  | _ => .ok manner

def copyForms : List OptionForm :=
  [.both 'a' "archive" .absent, .nameOnly "attributes-only" .absent,
    .nameOnly "backup" .optional, .letterOnly 'b' .absent,
    .nameOnly "copy-contents" .absent, .letterOnly 'd' .absent, .nameOnly "debug" .absent,
    .both 'L' "dereference" .absent, .both 'f' "force" .absent, .letterOnly 'H' .absent,
    .both 'i' "interactive" .absent, .both 'l' "link" .absent, .both 'n' "no-clobber" .absent,
    .both 'P' "no-dereference" .absent, .nameOnly "no-preserve" .required,
    .both 'T' "no-target-directory" .absent, .both 'x' "one-file-system" .absent,
    .nameOnly "parents" .absent, .letterOnly 'p' .absent,
    .nameOnly "preserve" .optional, .both 'r' "recursive" .absent, .letterOnly 'R' .absent,
    .nameOnly "remove-destination" .absent, .nameOnly "sparse" .required,
    .nameOnly "reflink" .optional, .nameOnly "strip-trailing-slashes" .absent,
    .both 'S' "suffix" .required, .both 's' "symbolic-link" .absent,
    .both 't' "target-directory" .required, .letterOnly 'u' .absent,
    .nameOnly "update" .optional, .both 'v' "verbose" .absent, .letterOnly 'Z' .absent,
    .nameOnly "context" .optional, .nameOnly "help" .absent, .nameOnly "version" .absent]

def moveForms : List OptionForm :=
  [.nameOnly "backup" .optional, .letterOnly 'b' .absent, .nameOnly "debug" .absent,
    .both 'Z' "context" .absent, .both 'f' "force" .absent, .both 'i' "interactive" .absent,
    .both 'n' "no-clobber" .absent, .nameOnly "no-copy" .absent,
    .both 'T' "no-target-directory" .absent, .nameOnly "strip-trailing-slashes" .absent,
    .both 'S' "suffix" .required, .both 't' "target-directory" .required,
    .letterOnly 'u' .absent, .nameOnly "update" .optional, .both 'v' "verbose" .absent,
    .nameOnly "help" .absent, .nameOnly "version" .absent]

def bringing (moves : Bool) (forms : List OptionForm) : Program := fun name words console =>
  let scan := OptionScan.ofWords forms true words
  match scan.given with
  | .error text => console.failUsage name text 1
  | .ok options =>
      if options.any fun option => option.1 == "help" || option.1 == "version" then
        (console.print ("Usage: ".toList ++ name ++ " [OPTION]...\n".toList), 0)
      else
        match options.foldlM Manner.withOption (Manner.start moves) with
        | .error text => console.failUsage name text 1
        | .ok manner =>
            if manner.collision = .refuse ∧ manner.backup ≠ .never then
              console.failUsage name
                "options --backup and --no-clobber are mutually exclusive".toList 1
            else manner.run name scan.operands console

end Filing

def cp : Program :=
  Filing.bringing false Filing.copyForms

def mv : Program :=
  Filing.bringing true Filing.moveForms

/-- Whether an option is among those given. -/
def hasOption (options : List (String × Octets)) (key : String) : Bool :=
  options.any (·.1 == key)

/-- Runs something on the operands after the options, at least one of which is needed. -/
def onOperands (forms : List OptionForm) (missing : String)
    (perform : List (String × Octets) → Octets → Octets → Console → Console × Nat) : Program :=
  fun name words console =>
    let scan := OptionScan.ofWords forms true words
    match scan.given with
    | .error text => console.failUsage name text 1
    | .ok options =>
        if scan.operands = [] then
          if hasOption options "force" then (console, 0)
          else console.failUsage name missing.toList 1
        else console.forEach scan.operands (perform options name)

def rm : Program :=
  onOperands
    [.both 'f' "force" .absent, .letterOnly 'i' .absent, .letterOnly 'I' .absent,
      .nameOnly "interactive" .optional, .nameOnly "one-file-system" .absent,
      .nameOnly "no-preserve-root" .absent, .nameOnly "preserve-root" .optional,
      .both 'r' "recursive" .absent, .letterOnly 'R' .absent, .both 'd' "dir" .absent,
      .both 'v' "verbose" .absent]
    "missing operand" fun options name path console =>
      let recursive := hasOption options "recursive" || hasOption options "R"
      let cannot (text : String) : Console × Nat :=
        console.fail name ("cannot remove ".toList ++ Quoting.forShell path ++ ": ".toList ++
          text.toList) 1
      let gone (location : Location) (text : String) : Console × Nat :=
        let console := { console with files := console.files.removeAll location }
        if hasOption options "verbose" then
          (console.print (text.toList ++ Quoting.forShell path ++ ['\n']), 0)
        else (console, 0)
      match Filing.find console path with
      | .error cause =>
          if hasOption options "force" ∧ (cause = .notFound ∨ cause = .notDirectory) then
            (console, 0)
          else
            console.fail name ("cannot remove ".toList ++ Quoting.forShell path ++ ": ".toList ++
              cause.plainMessage) 1
      | .ok found =>
          if found.node ≠ .directory then gone found.location "removed "
          else if recursive then
            if ["." , ".."].any (·.toList == Filing.lastPiece path) then
              console.fail name ("refusing to remove '.' or '..' directory: skipping ".toList ++
                Quoting.forShell path) 1
            else gone found.location "removed directory "
          else if hasOption options "dir" then
            if console.files.below found.location = [] then
              gone found.location "removed directory "
            else cannot "Directory not empty"
          else cannot "Is a directory"

def makeDirectory (name path : Octets) (console : Console) : Console × Nat :=
  match Filing.find console path with
  | .ok _ =>
      console.fail name ("cannot create directory ".toList ++ Quoting.forShell path ++
        ": File exists".toList) 1
  | .error _ =>
      match Filing.place console path with
      | .error cause => (console.complain (Filing.cannot name "create directory" path cause), 1)
      | .ok location => ({ console with files := console.files.put location .directory }, 0)

def mkdir : Program :=
  onOperands
    [.both 'p' "parents" .absent, .both 'm' "mode" .required, .both 'v' "verbose" .absent,
      .letterOnly 'Z' .absent, .nameOnly "context" .optional]
    "missing operand" fun options name path console =>
      if hasOption options "parents" then
        match Filing.find console path with
        | .ok found =>
            if found.node = .directory then (console, 0)
            else
              console.fail name ("cannot create directory ".toList ++ Quoting.forShell path ++
                ": File exists".toList) 1
        | .error .notDirectory =>
            (console.complain (Filing.cannot name "create directory" path .notDirectory), 1)
        | .error _ =>
            let location := (FileSystem.pathPieces (Octets.toText path)).foldl
              (fun (location : Location) piece =>
                if piece = ['.'] then location
                else if piece = ['.', '.'] then location.dropLast
                else location ++ [piece])
              (if path.head? = some '/' then [] else console.files.workingDirectory)
            ({ console with files := console.files.makeDirectories location }, 0)
      else makeDirectory name path console

def rmdir : Program :=
  onOperands
    [.both 'p' "parents" .absent, .both 'v' "verbose" .absent,
      .nameOnly "ignore-fail-on-non-empty" .absent]
    "missing operand" fun options name path console =>
      let failed (text : Octets) : Console × Nat :=
        console.fail name ("failed to remove ".toList ++ Quoting.forShell path ++ ": ".toList ++
          text) 1
      match Filing.find console path with
      | .error cause => failed cause.plainMessage
      | .ok found =>
          if found.node ≠ .directory then failed "Not a directory".toList
          else if console.files.below found.location ≠ [] then
            if hasOption options "ignore-fail-on-non-empty" then (console, 0)
            else failed "Directory not empty".toList
          else ({ console with files := console.files.removeAll found.location }, 0)

def touch : Program :=
  onOperands
    [.letterOnly 'a' .absent, .both 'c' "no-create" .absent, .both 'd' "date" .required,
      .letterOnly 'f' .absent, .both 'h' "no-dereference" .absent, .letterOnly 'm' .absent,
      .both 'r' "reference" .required, .letterOnly 't' .required, .nameOnly "time" .required]
    "missing file operand" fun options name path console =>
      match Filing.find console path with
      | .ok _ => (console, 0)
      | .error _ =>
          if hasOption options "no-create" then (console, 0)
          else
            match console.writeFile path [] with
            | .ok console => (console, 0)
            | .error cause =>
                (console.complain (Filing.cannot name "touch" path
                  (if cause = .isDirectory then .notFound else cause)), 1)

/-- The last piece of a path, less an ending unless nothing else is in it. -/
def basename : Program := fun name words console =>
  let scan := OptionScan.ofWords
    [.both 'a' "multiple" .absent, .both 's' "suffix" .required, .both 'z' "zero" .absent] false
    words
  match scan.given with
  | .error text => console.failUsage name text 1
  | .ok options =>
      let ended := if hasOption options "zero" then ['\x00'] else ['\n']
      let cutOff (ending path : Octets) : Octets :=
        let piece := Filing.lastPiece path
        match Text.before? ending piece with
        | some stem => if stem = [] then piece else stem
        | none => piece
      let suffix := (options.find? (·.1 == "suffix")).map Prod.snd
      match scan.operands with
      | [] => console.failUsage name "missing operand".toList 1
      | path :: rest =>
          if hasOption options "multiple" ∨ suffix.isSome then
            (console.print ((path :: rest).flatMap fun path =>
              cutOff (suffix.getD []) path ++ ended), 0)
          else
            match rest with
            | [] => (console.print (Filing.lastPiece path ++ ended), 0)
            | [ending] => (console.print (cutOff ending path ++ ended), 0)
            | _ :: extra :: _ =>
                console.failUsage name ("extra operand ".toList ++ Quoting.between extra) 1

def directoryPart (path : Octets) : Octets :=
  let trimmed := path.reverse.dropWhile (· == '/')
  if trimmed = [] then (if path = [] then ['.'] else ['/'])
  else
    match trimmed.dropWhile (· != '/') with
    | [] => ['.']
    | rest =>
        match rest.dropWhile (· == '/') with
        | [] => ['/']
        | kept => kept.reverse

def dirname : Program := fun name words console =>
  let scan := OptionScan.ofWords [.both 'z' "zero" .absent] false words
  match scan.given with
  | .error text => console.failUsage name text 1
  | .ok options =>
      if scan.operands = [] then console.failUsage name "missing operand".toList 1
      else
        let ended := if hasOption options "zero" then ['\x00'] else ['\n']
        (console.print (scan.operands.flatMap fun path => directoryPart path ++ ended), 0)

end Programs

end Host

end CuratedHistory
