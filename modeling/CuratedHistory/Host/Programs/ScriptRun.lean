import CuratedHistory.Host.Programs.Script

namespace CuratedHistory.Host.Programs

/-! Running a script on lines, one after the other. -/

/-- What a run of a script keeps between commands. -/
structure ScriptState where
  pattern : Octets
  /-- Whether the line that the pattern comes from had an end. -/
  ended : Bool
  held : Octets
  number : Nat
  left : List Octets
  /-- Ranges that have begun, by their commands, with the line that ends them. -/
  ranges : List (Nat × Option Nat)
  changed : Bool
  /-- What is printed before the next line. -/
  queue : List Octets
  lastRegex : Option Regex
  printed : List Octets
  files : List (Octets × Octets)
  /-- Whether the last thing printed lacks its end. -/
  open_ : Bool

/-- Where a run goes on after a command. -/
inductive ScriptStep where
  | go (command : Nat)
  /-- The commands are over; whether the pattern is printed. -/
  | endCycle (prints : Bool)
  /-- Starts again with what is left of the pattern. -/
  | again
  | quit (status : Nat) (prints : Bool)

namespace ScriptState

def print (state : ScriptState) (octets : Octets) (ended : Bool) (ending : Char) : ScriptState :=
  { state with
    printed := (if ended then octets ++ [ending] else octets) ::
      (if state.open_ then [ending] :: state.printed else state.printed)
    open_ := !ended }

def printText (state : ScriptState) (text : Octets) : ScriptState :=
  if text = [] then state
  else
    { state with
      printed := text :: (if state.open_ then ['\n'] :: state.printed else state.printed)
      open_ := false }

def isLast (state : ScriptState) : Bool :=
  state.left.isEmpty

def flush (state : ScriptState) : ScriptState :=
  { state.queue.foldl printText state with queue := [] }

def writeFile (state : ScriptState) (path octets : Octets) : ScriptState :=
  { state with files := match state.files.lookup path with
      | some before =>
          (path, before ++ octets) :: state.files.filter (·.1 != path)
      | none => (path, octets) :: state.files }

/-- The expression that is meant, which becomes the last one used. -/
def resolve (state : ScriptState) (regex : Option Regex) : Option Regex × ScriptState :=
  match regex with
  | some regex => (some regex, { state with lastRegex := some regex })
  | none => (state.lastRegex, state)

def isAt (state : ScriptState) (address : LineAddress) : Bool × ScriptState :=
  match address with
  | .number n => (state.number = n, state)
  | .last => (state.isLast, state)
  | .each first step =>
      (if step = 0 then state.number = first
        else decide (first ≤ state.number) && (state.number - first) % step = 0, state)
  | .fitting regex =>
      let (regex, state) := state.resolve regex
      (regex.any (·.matchesSomewhere (Octets.toBytes state.pattern)), state)

/-- The line that a range ends at, if that is known when it begins. -/
def endLine? (state : ScriptState) : RangeEnd → Option Nat
  | .address (.number n) => some n
  | .following count => some (state.number + count)
  | .multiple n => some (if n = 0 then state.number else (state.number + n - 1) / n * n)
  | .address _ => none

def selects (state : ScriptState) (command : Nat) (choice : LineChoice) : Bool × ScriptState :=
  let (found, state) : Bool × ScriptState :=
    match choice.first, choice.final with
    | none, _ => (true, state)
    | some first, none => state.isAt first
    | some (.number 0), some (.address address) =>
        if state.number = 1 ∨ (state.ranges.lookup command).isSome then
          let others := state.ranges.filter (·.1 != command)
          let (ends, state) := state.isAt address
          (true, { state with ranges := if ends then others else (command, none) :: others })
        else (false, state)
    | some first, some final =>
        let others := state.ranges.filter (·.1 != command)
        match state.ranges.lookup command with
        | some (some line) =>
            let state := if line ≤ state.number then { state with ranges := others } else state
            (decide (state.number ≤ line), state)
        | some none =>
            match final with
            | .address address =>
                let (ends, state) := state.isAt address
                (true, if ends then { state with ranges := others } else state)
            | _ => (true, state)
        | none =>
            let (begins, state) := state.isAt first
            if begins then
              let line? := state.endLine? final
              let ends := match final with
                | .address .last => state.isLast
                | _ => line?.any (· ≤ state.number)
              (true, if ends then state
                else { state with ranges := (command, line?) :: state.ranges })
            else (false, state)
  (found != choice.inverted, state)

/-- A text in the case that is asked for. The letters are those for all of it and for
its first octet. -/
def recase (whole first : Option Char) (text : Octets) : Octets :=
  let all :=
    match whole with
    | some 'U' => text.map Char.toUpper
    | some 'L' => text.map Char.toLower
    | _ => text
  match first, all with
  | some 'u', c :: rest => c.toUpper :: rest
  | some 'l', c :: rest => c.toLower :: rest
  | _, all => all

def replaced (found : Regex.Match) : Option Char → Option Char → List ReplacementPart → Octets
  | _, _, [] => []
  | whole, first, part :: rest =>
      match part with
      | .cases letter =>
          if letter = 'u' ∨ letter = 'l' then replaced found whole (some letter) rest
          else replaced found (if letter = 'E' then none else some letter) none rest
      | .octet c => recase whole first [c] ++ replaced found whole none rest
      | .group number =>
          let bytes := if number = 0 then found.found
            else (found.groups.lookup number).getD []
          let text := Octets.ofBytes bytes
          recase whole first text ++
            replaced found whole (if text = [] then first else none) rest

/-- Replaces matches from one on. An empty match right after another one does not count.
The first number bounds the matches, the second one counts those to be passed over. -/
def replaceFrom (regex : Regex) (substitution : Substitution) :
    Nat → Nat → Bool → Bytes → Bytes → Octets × Bool
  | 0, _, _, _, rest => (Octets.ofBytes rest, false)
  | n + 1, passed, afterMatch, before, rest =>
      match regex.longestFrom? before rest with
      | none => (Octets.ofBytes rest, false)
      | some found =>
          let skipped := rest.take (found.before.length - before.length)
          let here := found.found ++ found.before.reverse.take 0
          let start := found.before.reverse
          let head := Octets.ofBytes skipped
          let advance (passed : Nat) (kept : Octets) (changed : Bool) : Octets × Bool :=
            if here = [] then
              match found.after with
              | [] => (head ++ kept, changed)
              | byte :: after =>
                  let (others, more) :=
                    replaceFrom regex substitution n passed false (byte :: start) after
                  (head ++ kept ++ Octets.ofBytes [byte] ++ others, changed || more)
            else
              let (others, more) :=
                replaceFrom regex substitution n passed true (here.reverse ++ start) found.after
              (head ++ kept ++ others, changed || more)
          if here = [] ∧ afterMatch ∧ skipped = [] then advance passed [] false
          else if passed + 1 < substitution.first then
            advance (passed + 1) (Octets.ofBytes here) false
          else
            let text := replaced found none none substitution.parts
            if substitution.everywhere then advance (passed + 1) text true
            else (head ++ text ++ Octets.ofBytes found.after, true)

def startOf (text : Octets) : Octets :=
  text.takeWhile (· != '\n')

/-- An octet as it is shown where all octets are to be seen. -/
def shownOctet (c : Char) : Octets :=
  if c = '\\' then ['\\', '\\']
  else if Quoting.isPrintable c then [c]
  else Quoting.escaped c

/-- Breaks what is shown into lines of at most the given length. The number bounds them. -/
def brokenLines (width : Nat) : Nat → Octets → List Octets → Octets
  | _, line, [] => line ++ "$".toList
  | count, line, piece :: rest =>
      if width < count + piece.length then
        line ++ "\\\n".toList ++ brokenLines width piece.length piece rest
      else brokenLines width (count + piece.length) (line ++ piece) rest

/-- The next line, which the pattern becomes or is joined with. -/
def nextLine? (state : ScriptState) (ending : Char) : Option (Octets × ScriptState) :=
  match state.left with
  | [] => none
  | line :: left =>
      let ended := line.getLast? = some ending
      some (if ended then line.dropLast else line,
        { state with left, number := state.number + 1, ended })

end ScriptState

/-- What a run of a script depends on. -/
structure ScriptRun where
  commands : List ScriptCommand
  silent : Bool
  ending : Char
  name : Octets
  fileText : Octets → Octets

namespace ScriptRun

def labelIndex? (run : ScriptRun) (label : Octets) : Option Nat :=
  run.commands.findIdx? fun command =>
    match command.action with
    | .label name => name = label
    | _ => false

def jump (run : ScriptRun) (label : Octets) : ScriptStep :=
  if label = [] then .endCycle true
  else
    match run.labelIndex? label with
    | some n => .go (n + 1)
    | none => .endCycle true

/-- Does what a command asks for, and tells where to go on. -/
def perform (run : ScriptRun) (index : Nat) (choice : LineChoice) (action : ScriptAction)
    (state : ScriptState) : ScriptStep × ScriptState :=
  let on : ScriptStep := .go (index + 1)
  let print (state : ScriptState) (octets : Octets) : ScriptState :=
    state.print octets true run.ending
  match action with
  | .nothing | .label _ | .open_ _ | .close => (on, state)
  | .print => (on, state.print state.pattern state.ended run.ending)
  | .printStart => (on, print state (ScriptState.startOf state.pattern))
  | .delete => (.endCycle false, state)
  | .deleteStart =>
      if state.pattern.contains '\n' then
        (.again, { state with
          pattern := (state.pattern.dropWhile (· != '\n')).drop 1 })
      else (.endCycle false, state)
  | .quit status silent => (.quit status (!silent), state)
  | .number => (on, state.printText (Decimal.digits state.number ++ ['\n']))
  | .name => (on, state.printText (run.name ++ ['\n']))
  | .transliterate table =>
      (on, { state with pattern := state.pattern.map fun c => (table.lookup c).getD c })
  | .append text => (on, { state with queue := state.queue ++ [text] })
  | .insert text => (on, state.printText text)
  | .change text =>
      let inRange := choice.final.isSome && !choice.inverted && (state.ranges.lookup index).isSome
      (.endCycle false, if inRange then state else state.printText text)
  | .next =>
      if state.isLast then (.quit 0 true, state)
      else
        let state := if run.silent then state
          else state.print state.pattern state.ended run.ending
        match state.flush.nextLine? run.ending with
        | some (line, state) => (on, { state with pattern := line })
        | none => (on, state)
  | .nextJoined =>
      if state.isLast then (.quit 0 true, state)
      else
        match state.flush.nextLine? run.ending with
        | some (line, state) =>
            (on, { state with pattern := state.pattern ++ '\n' :: line })
        | none => (on, state)
  | .hold appends =>
      (on, { state with held :=
        if appends then state.held ++ '\n' :: state.pattern else state.pattern })
  | .fetch appends =>
      (on, { state with pattern :=
        if appends then state.pattern ++ '\n' :: state.held else state.held })
  | .exchange => (on, { state with pattern := state.held, held := state.pattern })
  | .clear => (on, { state with pattern := [] })
  | .reveal =>
      (on, state.printText (ScriptState.brokenLines 69 0 []
        (state.pattern.map ScriptState.shownOctet) ++ ['\n']))
  | .branch label => (run.jump label, state)
  | .branchIf changed label =>
      if state.changed = changed then (run.jump label, { state with changed := false })
      else (on, { state with changed := false })
  | .readFile path => (on, { state with queue := state.queue ++ [run.fileText path] })
  | .writeFile path => (on, state.writeFile path (state.pattern ++ ['\n']))
  | .substitute substitution =>
      match state.resolve substitution.regex with
      | (none, state) => (on, state)
      | (some regex, state) =>
          let bytes := Octets.toBytes state.pattern
          let (pattern, changed) := ScriptState.replaceFrom regex substitution
            (bytes.length + 2) 0 false [] bytes
          if changed then
            let state := { state with pattern, changed := true }
            let state :=
              if substitution.prints then state.print pattern state.ended run.ending else state
            let state :=
              match substitution.target with
              | some path =>
                  if path = "/dev/stdout".toList then print state pattern
                  else state.writeFile path (pattern ++ ['\n'])
              | none => state
            (on, state)
          else (on, state)

/-- Runs the commands from one on. The number bounds the steps. -/
def cycle (run : ScriptRun) : Nat → Nat → ScriptState → ScriptStep × ScriptState
  | 0, _, state => (.endCycle true, state)
  | n + 1, index, state =>
      match run.commands[index]? with
      | none => (.endCycle true, state)
      | some command =>
          let (selected, state) := state.selects index command.choice
          if !selected then
            match command.action with
            | .open_ close => run.cycle n (close + 1) state
            | _ => run.cycle n (index + 1) state
          else
            match run.perform index command.choice command.action state with
            | (.go next, state) => run.cycle n next state
            | (step, state) => (step, state)

def cycleLimit : Nat := 1000000

/-- Runs the commands for line after line. The number bounds the lines. -/
def lines (run : ScriptRun) : Nat → Bool → ScriptState → Nat × ScriptState
  | 0, _, state => (0, state)
  | n + 1, fresh, state =>
      let started : Option ScriptState :=
        if fresh then
          (state.nextLine? run.ending).map fun (line, state) =>
            { state with pattern := line, changed := false }
        else some state
      match started with
      | none => (0, state)
      | some state =>
          let finish (prints : Bool) (state : ScriptState) : ScriptState :=
            (if prints ∧ !run.silent then state.print state.pattern state.ended run.ending
              else state).flush
          match run.cycle cycleLimit 0 state with
          | (.endCycle prints, state) => run.lines n true (finish prints state)
          | (.again, state) => run.lines n false (finish false state)
          | (.quit status prints, state) => (status, finish prints state)
          | (.go _, state) => (0, state)

/-- Runs the script on lines; gives the status, what is printed and what is written to
files. -/
def onLines (run : ScriptRun) (content : List Octets) :
    Nat × Octets × List (Octets × Octets) :=
  let targets := run.commands.filterMap fun command =>
    match command.action with
    | .writeFile path => some (path, ([] : Octets))
    | .substitute { target := some path, .. } =>
        if path = "/dev/stdout".toList then none else some (path, [])
    | _ => none
  let start : ScriptState := {
    pattern := [], ended := true, held := [], number := 0, left := content, ranges := [],
    changed := false, queue := [], lastRegex := none, printed := [], files := targets,
    open_ := false }
  let size := (content.map List.length).foldl (· + ·) 0
  let (status, state) := run.lines (size + content.length + 2) true start
  (status, state.printed.reverse.flatten, state.files)

end ScriptRun

end CuratedHistory.Host.Programs
