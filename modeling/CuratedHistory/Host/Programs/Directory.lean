import CuratedHistory.Host.Programs.Filing

namespace CuratedHistory.Host.Programs

/-! Looking into directories, and putting new names into them. -/

namespace Directory

/-- The names in a directory in order; those with a dot in front are shown on demand,
with the two that lead out or without them. -/
def names (files : FileSystem) (location : Location) (dotted outward : Bool) : List Octets :=
  let found := (files.namesIn location).map Octets.ofText
  let shown := if dotted then found else found.filter fun name => name.head? != some '.'
  ((if outward then [['.'], ['.', '.']] else []) ++ shown).mergeSort Text.atMost

def hasOption (options : List (String × Octets)) (key : String) : Bool :=
  options.any (·.1 == key)

/-- A name with a separator after it if it leads to a directory and that is to be seen. -/
def marked (console : Console) (options : List (String × Octets)) (directory name : Octets) :
    Octets :=
  let path := if directory = [] then name else Filing.inside directory name
  if hasOption options "p" || hasOption options "classify" then
    if console.isDirectory path then name ++ ['/']
    else if hasOption options "classify" ∧ console.files.isExecutable (Octets.toText path) then
      name ++ ['*']
    else name
  else name

def rows (options : List (String × Octets)) (names : List Octets) : Octets :=
  let names := if hasOption options "reverse" then names.reverse else names
  if hasOption options "m" then
    if names = [] then [] else Text.join ", ".toList names ++ ['\n']
  else names.flatMap (· ++ ['\n'])

def listing (console : Console) (options : List (String × Octets)) (path : Octets)
    (location : Location) : Octets :=
  let everything := hasOption options "all"
  rows options ((names console.files location (everything || hasOption options "almost-all")
    everything).map (marked console options path))

end Directory

def ls : Program := fun name words console =>
  let scan := OptionScan.ofWords
    [.both 'a' "all" .absent, .both 'A' "almost-all" .absent, .both 'd' "directory" .absent,
      .both 'r' "reverse" .absent, .letterOnly '1' .absent, .letterOnly 'C' .absent,
      .letterOnly 'p' .absent, .both 'F' "classify" .optional, .letterOnly 'm' .absent,
      .letterOnly 'U' .absent, .nameOnly "color" .optional, .both 'N' "literal" .absent]
    true words
  match scan.given with
  | .error text => console.failUsage name text 2
  | .ok options =>
      let operands := if scan.operands = [] then [['.']] else
        scan.operands.mergeSort Text.atMost
      let (console, found, status) := operands.foldl
        (fun (console, found, status) path =>
          match Filing.find console path with
          | .ok entry => (console, found ++ [(path, entry)], status)
          | .error cause =>
              (console.complain (name ++ ": cannot access ".toList ++ Quoting.forShell path ++
                ": ".toList ++ cause.plainMessage), found, 2))
        (console, ([] : List (Octets × Found)), 0)
      let looksInto (entry : Octets × Found) : Bool :=
        entry.2.node == .directory && !Directory.hasOption options "directory"
      let plain := found.filter fun entry => !looksInto entry
      let directories := found.filter looksInto
      let first := Directory.rows options
        (plain.map fun entry => Directory.marked console options [] entry.1)
      let others := directories.map fun entry =>
        (if operands.length > 1 then entry.1 ++ ":\n".toList else []) ++
          Directory.listing console options entry.1 entry.2.location
      let blocks := (if plain = [] then [] else [first]) ++ others
      (console.print (Text.join ['\n'] blocks), status)

/-- Gives a file another name. What the name holds is a copy, as nothing here changes one
of the two afterwards. -/
def ln : Program := fun name words console =>
  let scan := OptionScan.ofWords
    [.both 'f' "force" .absent, .both 's' "symbolic" .absent, .both 'v' "verbose" .absent,
      .both 'n' "no-dereference" .absent, .both 'P' "physical" .absent,
      .both 'L' "logical" .absent, .both 'T' "no-target-directory" .absent]
    true words
  match scan.given with
  | .error text => console.failUsage name text 1
  | .ok options =>
      let link (source target : Octets) (console : Console) : Console × Nat :=
        match Filing.find console source with
        | .error cause =>
            console.fail name ("failed to access ".toList ++ Quoting.forShell source ++
              ": ".toList ++ cause.plainMessage) 1
        | .ok found =>
            if found.node == .directory then
              console.fail name (Quoting.asName source ++
                ": hard link not allowed for directory".toList) 1
            else
              match Filing.place console target with
              | .error cause =>
                  console.fail name ("failed to create hard link ".toList ++
                    Quoting.forShell target ++ " => ".toList ++ Quoting.forShell source ++
                    ": ".toList ++ cause.plainMessage) 1
              | .ok location =>
                  let free := (console.files.node? location).isNone
                  if free ∨ Directory.hasOption options "force" then
                    ({ console with files := console.files.put location found.node }, 0)
                  else
                    console.fail name ("failed to create hard link ".toList ++
                      Quoting.forShell target ++ ": File exists".toList) 1
      let into (directory : Octets) (sources : List Octets) : Console × Nat :=
        console.forEach sources fun source console =>
          link source (Filing.inside directory (Filing.lastPiece source)) console
      match scan.operands with
      | [] => console.failUsage name "missing file operand".toList 1
      | [source] => into ['.'] [source]
      | [source, target] =>
          if console.isDirectory target then into target [source] else link source target console
      | operands =>
          let target := operands.getLast?.getD []
          if console.isDirectory target then into target operands.dropLast
          else
            console.fail name ("target ".toList ++ Quoting.forShell target ++
              (if (console.node? target).toOption.isSome then ": Not a directory"
                else ": No such file or directory").toList) 1

/-- A name that is free after a start, and as long as it is asked to be. -/
def freeName (console : Console) (start : Octets) (length : Nat) : Octets :=
  let candidates := (List.range 1000).map fun n => start ++ Decimal.padded length n
  (candidates.find? fun path => (console.node? path).toOption.isNone).getD start

def mktemp : Program := fun name words console =>
  let scan := OptionScan.ofWords
    [.both 'd' "directory" .absent, .both 'u' "dry-run" .absent, .both 'q' "quiet" .absent,
      .both 'p' "tmpdir" .required, .letterOnly 't' .absent]
    true words
  match scan.given with
  | .error text => console.failUsage name text 1
  | .ok options =>
      let template := scan.operands.headD "tmp.XXXXXXXXXX".toList
      let places := (template.reverse.takeWhile (· == 'X')).length
      if places < 3 then
        console.fail name ("too few X's in template ".toList ++ Quoting.forShell template) 1
      else
        let inDirectory := scan.operands = [] || Directory.hasOption options "tmpdir" ||
          Directory.hasOption options "t"
        let directory := ((options.find? (·.1 == "tmpdir")).map Prod.snd).getD "/tmp".toList
        let start := template.dropLast.take (template.length - places)
        let path := freeName console
          (if inDirectory then Filing.inside directory start else start) places
        let made : Except FileError Console :=
          if Directory.hasOption options "dry-run" then .ok console
          else if Directory.hasOption options "directory" then
            (Filing.place console path).map fun location =>
              { console with files := console.files.put location .directory }
          else console.writeFile path []
        match made with
        | .ok console => (console.print (path ++ ['\n']), 0)
        | .error cause =>
            console.fail name ("failed to create file via template ".toList ++
              Quoting.forShell template ++ ": ".toList ++ cause.plainMessage) 1

def cmp : Program := fun name words console =>
  let scan := OptionScan.ofWords
    [.both 's' "quiet" .absent, .nameOnly "silent" .absent, .both 'l' "verbose" .absent,
      .both 'b' "print-bytes" .absent]
    true words
  match scan.given with
  | .error text => console.failUsage name text 2
  | .ok options =>
      let quiet := Directory.hasOption options "quiet" || Directory.hasOption options "silent"
      match scan.operands with
      | [] => console.failUsage name "missing operand after 'cmp'".toList 2
      | first :: rest =>
          let second := rest.headD ['-']
          match console.readOperand first with
          | (.error cause, console) =>
              console.fail name (first ++ ": ".toList ++ cause.plainMessage) 2
          | (.ok left, console) =>
              match console.readOperand second with
              | (.error cause, console) =>
                  console.fail name (second ++ ": ".toList ++ cause.plainMessage) 2
              | (.ok right, console) =>
                  if left = right then (console, 0)
                  else if quiet then (console, 1)
                  else
                    let same := ((left.zip right).takeWhile fun pair => pair.1 == pair.2).length
                    let line := (left.take same).count '\n' + 1
                    if same = left.length ∨ same = right.length then
                      let path := if same = left.length then first else second
                      if same = 0 then
                        console.fail name ("EOF on ".toList ++ path ++
                          " which is empty".toList) 1
                      else
                        let ended := (left.take same).getLast? = some '\n'
                        console.fail name ("EOF on ".toList ++ path ++ " after byte ".toList ++
                          Decimal.digits same ++ (if ended then ", line " else ", in line ").toList ++
                          Decimal.digits (if ended then line - 1 else line)) 1
                    else
                      (console.print (first ++ ' ' :: second ++ " differ: char ".toList ++
                        Decimal.digits (same + 1) ++ ", line ".toList ++ Decimal.digits line ++
                        ['\n']), 1)

end CuratedHistory.Host.Programs
