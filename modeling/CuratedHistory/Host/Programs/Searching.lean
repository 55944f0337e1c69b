import CuratedHistory.Host.Programs.Options
import CuratedHistory.Host.Text.RegexForm

namespace CuratedHistory.Host.Programs

/-! Picking out the lines of files that fit an expression. -/

/-- What is told of each file. -/
inductive SearchReport where
  | lines
  | parts
  | count
  | names (ofFitting : Bool)
  | nothing
  deriving DecidableEq, Repr

/-- How expressions for a search are written. -/
inductive SearchForm where
  | regex (form : RegexForm)
  | fixed
  | rich
  deriving DecidableEq, Repr

structure Search where
  regex : Regex
  inverted : Bool
  report : SearchReport
  most : Option Nat
  numbered : Bool
  offsets : Bool
  named : Bool
  takesBinary : Bool
  before : Nat
  after : Nat
  /-- What ends a line. -/
  ending : Char

namespace Search

def forms : List OptionForm :=
  [.both 'E' "extended-regexp" .absent, .both 'F' "fixed-strings" .absent,
    .both 'G' "basic-regexp" .absent, .both 'P' "perl-regexp" .absent,
    .both 'e' "regexp" .required, .both 'f' "file" .required, .both 'i' "ignore-case" .absent,
    .letterOnly 'y' .absent, .nameOnly "no-ignore-case" .absent,
    .both 'v' "invert-match" .absent, .both 'w' "word-regexp" .absent,
    .both 'x' "line-regexp" .absent, .both 'c' "count" .absent,
    .both 'l' "files-with-matches" .absent, .both 'L' "files-without-match" .absent,
    .both 'm' "max-count" .required, .both 'o' "only-matching" .absent,
    .both 'q' "quiet" .absent, .nameOnly "silent" .absent, .both 's' "no-messages" .absent,
    .both 'b' "byte-offset" .absent, .both 'H' "with-filename" .absent,
    .both 'h' "no-filename" .absent, .both 'n' "line-number" .absent,
    .both 'a' "text" .absent, .both 'A' "after-context" .required,
    .both 'B' "before-context" .required, .both 'C' "context" .required,
    .both 'z' "null-data" .absent, .nameOnly "color" .optional, .nameOnly "colour" .optional,
    .both 'r' "recursive" .absent, .both 'R' "dereference-recursive" .absent,
    .nameOnly "line-buffered" .absent, .both 'U' "binary" .absent]

def ofLine (form : SearchForm) (anyCase : Bool) (line : Octets) : Except Octets Regex :=
  match form with
  | .fixed =>
      let manner : RegexManner := { form := .basic, anyCase, strict := false, byLine := false }
      .ok (line.foldl (fun regex c => .sequence regex (RegexForm.ofOctet manner c)) .nothing)
  | .rich =>
      match Regex.ofText? { Regex.Manner.plain with anyCase } line with
      | some regex => .ok regex
      | none => .error "missing closing parenthesis".toList
  | .regex form =>
      match RegexForm.read { form, anyCase, strict := false, byLine := false } line with
      | .ok (regex, _) => .ok regex
      | .error fault => .error fault.message.toList

/-- An expression that has to fill a line, or the space between other characters than
those of words. -/
def bounded (wholeLine wholeWord : Bool) (regex : Regex) : Regex :=
  if wholeLine then
    .sequence (.standing .textStart) (.sequence regex (.standing .textStop))
  else if wholeWord then
    .sequence (.look false false (.oneOf Regex.wordSet))
      (.sequence regex (.look true false (.oneOf Regex.wordSet)))
  else regex

def ofPatterns (form : SearchForm) (anyCase wholeLine wholeWord : Bool)
    (patterns : List Octets) : Except Octets Regex := do
  let found ← patterns.mapM (ofLine form anyCase)
  let joined : Regex :=
    match found.reverse with
    | [] => .look true false .nothing
    | last :: others => others.foldl (fun regex first => .either first regex) last
  return bounded wholeLine wholeWord joined

/-- The parts of a line that fit, with their distances from its start. Parts without
octets are passed over. The number bounds them. -/
def partsFrom (regex : Regex) : Nat → Bytes → Bytes → List (Nat × Bytes)
  | 0, _, _ => []
  | n + 1, before, rest =>
      match regex.longestFrom? before rest with
      | none => []
      | some found =>
          let start := found.before.length
          if found.found = [] then
            match found.after with
            | [] => []
            | byte :: after => partsFrom regex n (byte :: found.before.reverse) after
          else
            (start, found.found) ::
              partsFrom regex n (found.found.reverse ++ found.before.reverse) found.after

/-- A line with its number, its distance from the start and whether it is selected. -/
structure Line where
  number : Nat
  offset : Nat
  content : Octets
  selected : Bool

/-- Numbers lines and selects them, up to a number of selected ones; the lines after the
last of those are not selected. -/
def selectLines (search : Search) : Nat → Nat → Option Nat → List Octets → List Line
  | _, _, _, [] => []
  | number, offset, room, line :: rest =>
      let fits := search.regex.matchesSomewhere (Octets.toBytes line) != search.inverted
      let selected := fits && room != some 0
      let room := if selected then room.map (· - 1) else room
      { number, offset, content := line, selected } ::
        selectLines search (number + 1) (offset + line.length + 1) room rest

/-- The lines of a content without what ends them. -/
def linesOf (search : Search) (content : Octets) : List Octets :=
  if content = [] then []
  else
    let pieces := Text.pieces search.ending content
    if content.getLast? = some search.ending then pieces.dropLast else pieces

def heading (search : Search) (name : Octets) (line : Line) (distance : Nat) (sign : Char) :
    Octets :=
  (if search.named then name ++ [sign] else []) ++
    (if search.numbered then Decimal.digits line.number ++ [sign] else []) ++
    (if search.offsets then Decimal.digits (line.offset + distance) ++ [sign] else [])

def partLines (search : Search) (name : Octets) (line : Line) : Octets :=
  let bytes := Octets.toBytes line.content
  (partsFrom search.regex (bytes.length + 1) [] bytes).flatMap fun (start, part) =>
    search.heading name line start ':' ++ Octets.ofBytes part ++ [search.ending]

/-- The selected lines with the lines around them; two dashes stand between groups. The
distance is the one from the last selected line, and the flag tells that a line has been
told. -/
def toldLines (search : Search) (name : Octets) : Option Nat → Bool → Bool → List Line → Octets
  | _, _, _, [] => []
  | distance, told, adjacent, line :: rest =>
      let told' (sign : Char) : Octets :=
        (if told ∧ !adjacent ∧ (search.before > 0 ∨ search.after > 0) then "--\n".toList
          else []) ++
          search.heading name line 0 sign ++ line.content ++ [search.ending]
      if line.selected then
        told' ':' ++ toldLines search name (some 0) true true rest
      else
        let isAfter := distance.any (· < search.after)
        let isBefore := (rest.take search.before).any (·.selected)
        let next := distance.map (· + 1)
        if isAfter ∨ isBefore then told' '-' ++ toldLines search name next true true rest
        else toldLines search name next told false rest

/-- What is told of a content under a name, and whether a line of it is selected. -/
def told (search : Search) (name content : Octets) : Octets × Bool :=
  let lines := search.selectLines 1 0 search.most (search.linesOf content)
  let count := (lines.filter (·.selected)).length
  let named (octets : Octets) : Octets :=
    (if search.named then name ++ [':'] else []) ++ octets
  let isBinary := content.contains '\x00' ∧ !search.takesBinary ∧ search.ending = '\n'
  let octets : Octets :=
    match search.report with
    | .nothing => []
    | .count => named (Decimal.digits count) ++ ['\n']
    | .names ofFitting => if (count > 0) = ofFitting then name ++ ['\n'] else []
    | .parts | .lines =>
        if isBinary then []
        else if search.report = .lines then search.toldLines name none false true lines
        else if search.inverted then []
        else (lines.filter (·.selected)).flatMap (search.partLines name)
  (octets, count > 0)

/-- Whether something is said about a content that is no text instead of its lines. -/
def hidesBinary (search : Search) (content : Octets) : Bool :=
  (search.report = .lines || search.report = .parts) && content.contains '\x00' &&
    !search.takesBinary && search.ending = '\n'

end Search

def searchUsage : List Octets :=
  ["Usage: grep [OPTION]... PATTERNS [FILE]...".toList,
    "Try 'grep --help' for more information.".toList]

/-- Reads the words of a command line into a search and the files to go through. -/
def Search.ofOptions (console : Console) (start : SearchForm) (options : List (String × Octets))
    (operands : List Octets) : Except (List Octets) (Search × List Octets) :=
  let has (key : String) : Bool := options.any (·.1 == key)
  let last? (key : String) : Option Octets := (options.reverse.find? (·.1 == key)).map Prod.snd
  let form := options.foldl
    (fun form option =>
      match option.1 with
      | "extended-regexp" => .regex .extended
      | "basic-regexp" => .regex .basic
      | "fixed-strings" => .fixed
      | "perl-regexp" => .rich
      | _ => form) start
  let fromFiles : Except (List Octets) (List Octets) :=
    (options.filter (·.1 == "file")).foldlM
      (fun lines option =>
        match (console.readOperand option.2).1 with
        | .ok content =>
            .ok (lines ++ (if content = [] then [] else
              (endedLines content).map withoutLineFeed))
        | .error cause => .error ["grep: ".toList ++ option.2 ++ ": ".toList ++ cause.plainMessage])
      []
  let given := (options.filter (·.1 == "regexp")).flatMap fun option =>
    Text.pieces '\n' option.2
  match fromFiles with
  | .error text => .error text
  | .ok fromFiles =>
      let asked := has "regexp" || has "file"
      match (if asked then some (given ++ fromFiles, operands)
        else
          match operands with
          | [] => none
          | pattern :: rest => some (Text.pieces '\n' pattern, rest)) with
      | none => .error searchUsage
      | some (patterns, files) =>
          let anyCase := has "ignore-case" || has "y"
          match Search.ofPatterns form anyCase (has "line-regexp") (has "word-regexp") patterns with
          | .error text => .error ["grep: ".toList ++ text]
          | .ok regex =>
              let number? (key : String) (problem : String) : Except (List Octets) (Option Nat) :=
                match last? key with
                | none => .ok none
                | some word =>
                    match Decimal.read? word with
                    | some n => .ok (some n)
                    | none => .error ["grep: ".toList ++
                        (if key = "max-count" then [] else word ++ ": ".toList) ++
                        problem.toList]
              let report : SearchReport :=
                if has "quiet" || has "silent" then .nothing
                else if has "files-with-matches" then .names true
                else if has "files-without-match" then .names false
                else if has "count" then .count
                else if has "only-matching" then .parts
                else .lines
              match number? "max-count" "invalid max count",
                  number? "context" "invalid context length argument",
                  number? "before-context" "invalid context length argument",
                  number? "after-context" "invalid context length argument" with
              | .ok most, .ok around, .ok before, .ok after =>
                  let named :=
                    match options.reverse.find? fun option =>
                      option.1 == "with-filename" || option.1 == "no-filename" with
                    | some option => option.1 == "with-filename"
                    | none => files.length > 1
                  .ok ({
                    regex
                    inverted := has "invert-match"
                    report
                    most
                    numbered := has "line-number"
                    offsets := has "byte-offset"
                    named
                    takesBinary := has "text"
                    before := before.getD (around.getD 0)
                    after := after.getD (around.getD 0)
                    ending := if has "null-data" then '\x00' else '\n' },
                    if files = [] then [['-']] else files)
              | .error text, _, _, _ | _, .error text, _, _ | _, _, .error text, _
              | _, _, _, .error text => .error text

/-- Searches files, in a form that options can change. -/
def grepIn (start : SearchForm) : Program := fun _ words console =>
  let scan := OptionScan.ofWords Search.forms true words
  match scan.given with
  | .error text =>
      (("grep: ".toList ++ text) :: searchUsage |>.foldl Console.complain console, 2)
  | .ok options =>
      match Search.ofOptions console start options scan.operands with
      | .error lines => (lines.foldl Console.complain console, 2)
      | .ok (search, files) =>
          let silent := options.any (·.1 == "no-messages")
          let (console, fits, failed) := files.foldl
            (fun (console, fits, failed) path =>
              let name := if path = ['-'] then "(standard input)".toList else path
              match console.readOperand path with
              | (.error cause, console) =>
                  (if silent then console
                    else console.complain ("grep: ".toList ++ path ++ ": ".toList ++
                      cause.plainMessage), fits, true)
              | (.ok content, console) =>
                  let (octets, found) := search.told name content
                  let console := console.print octets
                  let console :=
                    if found ∧ search.hidesBinary content then
                      console.complain ("grep: ".toList ++ name ++
                        ": binary file matches".toList)
                    else console
                  (console, fits || found, failed))
            (console, false, false)
          let quiet := search.report = .nothing
          (console, if fits ∧ (quiet ∨ !failed) then 0 else if failed then 2 else 1)

def grep : Program := grepIn (.regex .basic)

end CuratedHistory.Host.Programs
