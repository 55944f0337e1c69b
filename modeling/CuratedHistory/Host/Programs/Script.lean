import CuratedHistory.Host.Programs.Options
import CuratedHistory.Host.Programs.Quoting
import CuratedHistory.Host.Text.Numeral
import CuratedHistory.Host.Text.RegexForm

namespace CuratedHistory.Host.Programs

/-! Scripts of short commands that rewrite lines, each with the lines it is for. -/

/-- What a replacement is made of. -/
inductive ReplacementPart where
  | octet (c : Char)
  /-- What a group has matched, or all of the match. -/
  | group (number : Nat)
  /-- How the case of what follows changes. -/
  | cases (letter : Char)
  deriving DecidableEq, Repr

structure Substitution where
  /-- Without an expression the last one that was used is meant. -/
  regex : Option Regex
  parts : List ReplacementPart
  everywhere : Bool
  prints : Bool
  first : Nat
  target : Option Octets

inductive LineAddress where
  | number (n : Nat)
  | last
  | fitting (regex : Option Regex)
  | each (first step : Nat)

/-- Where a range of lines ends. -/
inductive RangeEnd where
  | address (address : LineAddress)
  | following (count : Nat)
  | multiple (n : Nat)

/-- The lines that a command is for. -/
structure LineChoice where
  first : Option LineAddress
  final : Option RangeEnd
  inverted : Bool

inductive ScriptAction where
  | substitute (substitution : Substitution)
  | print
  | printStart
  | delete
  | deleteStart
  | quit (status : Nat) (silent : Bool)
  | number
  | transliterate (table : List (Char × Char))
  | append (text : Octets)
  | insert (text : Octets)
  | change (text : Octets)
  | next
  | nextJoined
  | hold (appends : Bool)
  | fetch (appends : Bool)
  | exchange
  | branch (label : Octets)
  | branchIf (changed : Bool) (label : Octets)
  | label (label : Octets)
  | readFile (path : Octets)
  | writeFile (path : Octets)
  | clear
  | reveal
  | name
  | nothing
  /-- Commands for the same lines, up to the closing brace with the number. -/
  | open_ (close : Nat)
  | close

structure ScriptCommand where
  choice : LineChoice
  action : ScriptAction

/-- What is wrong with a script, and where. -/
structure ScriptFault where
  place : Nat
  text : Octets

namespace Script

/-- A script that is being read, with the commands so far, the latest first, and the
numbers of the commands whose braces are open. -/
structure Reader where
  rest : Octets
  length : Nat
  form : RegexForm
  commands : List ScriptCommand
  opened : List Nat

abbrev Reading := StateT Reader (Except ScriptFault)

def refuse {α : Type} (text : String) : Reading α := fun reader =>
  .error { place := reader.length - reader.rest.length, text := text.toList }

def peek? : Reading (Option Char) := fun reader => .ok (reader.rest.head?, reader)

def take? : Reading (Option Char) := fun reader =>
  .ok (reader.rest.head?, { reader with rest := reader.rest.tail })

def drop : Reading Unit :=
  modify fun reader => { reader with rest := reader.rest.tail }

def row (holds : Char → Bool) : Reading Octets := fun reader =>
  .ok (reader.rest.takeWhile holds, { reader with rest := reader.rest.dropWhile holds })

def skipBlanks : Reading Unit := do
  let _ ← row fun c => c = ' ' || c = '\t'

def number? : Reading (Option Nat) := do
  let digits ← row Char.isDigit
  return if digits = [] then none else some (Decimal.value digits)

/-- The end of a class that starts with these octets, after its bracket: how many of them
belong to it, if it ends. The number bounds them. -/
def classLength? : Nat → Octets → Option Nat
  | 0, _ => none
  | _ + 1, [] => none
  | _ + 1, ']' :: _ => some 1
  | n + 1, '[' :: sign :: rest =>
      if sign = ':' ∨ sign = '.' ∨ sign = '=' then
        let name := rest.takeWhile (· != ']')
        (classLength? n (rest.drop (name.length + 1))).map (· + name.length + 3)
      else (classLength? n (sign :: rest)).map (· + 1)
  | n + 1, _ :: rest => (classLength? n rest).map (· + 1)

/-- Takes the octets of a class after its bracket, if it ends. -/
def classOctets? : Reading (Option Octets) := do
  let rest := (← get).rest
  let head := rest.takeWhile (· == '^') |>.take 1
  let first := (rest.drop head.length).takeWhile (· == ']') |>.take 1
  let start := head.length + first.length
  match classLength? (rest.length + 1) (rest.drop start) with
  | none =>
      modify fun reader => { reader with rest := [] }
      return none
  | some length =>
      modify fun reader => { reader with rest := rest.drop (start + length) }
      return some (rest.take (start + length))

/-- The text up to an octet that ends it. A backslash takes the meaning from that octet;
a line feed may be asked for by a letter, and in an expression the end means itself
inside brackets. The number bounds the octets. -/
def untilMark (mark : Char) (isRegex : Bool) : Nat → Reading (Option Octets)
  | 0 => return none
  | n + 1 => do
      match ← take? with
      | none => return none
      | some c =>
          if c = mark then return some []
          else if c = '[' ∧ isRegex then
            match ← classOctets? with
            | none => return none
            | some octets =>
                return (← untilMark mark isRegex n).map fun rest => c :: (octets ++ rest)
          else if c = '\n' ∧ isRegex then return none
          else if c = '\\' then
            match ← take? with
            | none => return none
            | some next =>
                let kept : Octets :=
                  if next = mark then (if isRegex ∨ mark ≠ '&' then [next] else ['\\', next])
                  else if next = 'n' ∧ isRegex then ['\n']
                  else ['\\', next]
                return (← untilMark mark isRegex n).map (kept ++ ·)
          else return (← untilMark mark isRegex n).map (c :: ·)

def upTo (mark : Char) (isRegex : Bool) : Reading (Option Octets) := do
  untilMark mark isRegex ((← get).rest.length + 1)

/-- The expression that a text describes; an empty text asks for the last one used. -/
def regex? (text : Octets) (anyCase byLine : Bool) : Reading (Option Regex × Nat) := do
  if text = [] then return (none, 0)
  else
    let form := (← get).form
    match RegexForm.read { form, anyCase, strict := true, byLine } text with
    | .ok (regex, groups) => return (some regex, groups)
    | .error fault => refuse fault.message

/-- The address at the start of a command, if there is one. -/
def address? : Reading (Option LineAddress) := do
  match ← peek? with
  | some '$' =>
      drop
      return some .last
  | some '/' =>
      drop
      fitting '/'
  | some '\\' =>
      drop
      match ← take? with
      | some mark => fitting mark
      | none => refuse "unexpected \x60,'"
  | _ =>
      match ← number? with
      | none => return none
      | some first =>
          if (← peek?) = some '~' then
            drop
            return some (.each first ((← number?).getD 0))
          else return some (.number first)
where
  /-- An address by an expression up to a mark, with the letters after it. -/
  fitting (mark : Char) : Reading (Option LineAddress) := do
    match ← upTo mark true with
    | none => refuse "unterminated address regex"
    | some text =>
        let letters ← row fun c => c = 'I' || c = 'M'
        let (regex, _) ← regex? text (letters.contains 'I') (letters.contains 'M')
        return some (.fitting regex)

/-- The end of a range after its comma. -/
def rangeEnd : Reading RangeEnd := do
  skipBlanks
  match ← peek? with
  | some '+' =>
      drop
      return .following ((← number?).getD 0)
  | some '~' =>
      drop
      return .multiple ((← number?).getD 0)
  | _ =>
      match ← address? with
      | some address => return .address address
      | none => refuse "unexpected \x60,'"

def choice : Reading LineChoice := do
  let first ← address?
  skipBlanks
  let final? ← do
    if first.isSome ∧ (← peek?) = some ',' then
      drop
      pure (some (← rangeEnd))
    else pure none
  let isZero : Bool := match first with
    | some (.number 0) => true
    | _ => false
  let endsFitting : Bool := match final? with
    | some (.address (.fitting _)) => true
    | _ => false
  if isZero ∧ !endsFitting then refuseZero
  else
    skipBlanks
    if (← peek?) = some '!' then
      drop
      let _ ← row fun c => c = ' ' || c = '\t'
      if (← peek?) = some '!' then
        drop
        refuse "multiple \x60!'s"
      else return { first, final := final?, inverted := true }
    else return { first, final := final?, inverted := false }
where
  refuseZero : Reading LineChoice := do
    drop
    refuse "invalid usage of line address 0"

/-- What follows a command on its line: nothing, or the next command. -/
def endCommand : Reading Unit := do
  skipBlanks
  match ← peek? with
  | none | some '\x7d' | some '#' => return
  | some ';' | some '\n' => drop
  | some _ =>
      drop
      refuse "extra characters after command"

def lineName : Reading Octets := do
  skipBlanks
  row (· != '\n')

def labelName : Reading Octets := do
  skipBlanks
  row fun c => !" \t\n;".toList.contains c

/-- Lines up to one that does not end in a backslash, with the backslashes resolved. The
number bounds the octets. -/
def textLines : Nat → Octets → Octets × Octets
  | 0, text => ([], text)
  | _ + 1, [] => ([], [])
  | _ + 1, '\n' :: rest => ([], rest)
  | n + 1, '\\' :: c :: rest =>
      let (text, after) := textLines n rest
      (c :: text, after)
  | n + 1, c :: rest =>
      let (text, after) := textLines n rest
      (c :: text, after)

/-- The text of a command that adds one, with a line feed at its end. -/
def addedText : Reading Octets := do
  skipBlanks
  match ← peek? with
  | none => refuse "expected \\ after \x60a', \x60c' or \x60i'"
  | some '\\' =>
      drop
      let reader ← get
      skipBlanks
      match ← peek? with
      | none => return []
      | some '\n' =>
          drop
          finish
      | some _ =>
          set reader
          finish
  | some _ => finish
where
  finish : Reading Octets := do
    let reader ← get
    let (text, rest) := textLines (reader.rest.length + 1) reader.rest
    set { reader with rest }
    return text ++ ['\n']

/-- The octet that a letter asks for after a backslash in a replacement. -/
def escapedOctet? (c : Char) : Option Char :=
  [('n', '\n'), ('t', '\t'), ('a', '\x07'), ('f', '\x0c'), ('r', '\r'), ('v', '\x0b')].lookup c

/-- The parts of a replacement. The number bounds them. -/
def replacement : Nat → Octets → List ReplacementPart
  | 0, _ => []
  | _ + 1, [] => []
  | n + 1, '&' :: rest => .group 0 :: replacement n rest
  | n + 1, '\\' :: c :: rest =>
      if c.isDigit then .group (c.toNat - 48) :: replacement n rest
      else if "ULEul".toList.contains c then .cases c :: replacement n rest
      else
        match escapedOctet? c with
        | some found => .octet found :: replacement n rest
        | none =>
            let digits := Numeral.row 16 (rest.take 2)
            if c = 'x' ∧ digits ≠ [] then
              .octet (Char.ofNat (Numeral.value 16 digits)) ::
                replacement n (rest.drop digits.length)
            else .octet c :: replacement n rest
  | n + 1, c :: rest => .octet c :: replacement n rest

/-- The letters after a substitution. -/
structure Flags where
  everywhere : Bool
  prints : Bool
  first : Option Nat
  anyCase : Bool
  byLine : Bool
  target : Option Octets

/-- Reads the letters after a substitution. The number bounds them. -/
def flags : Nat → Flags → Reading Flags
  | 0, found => return found
  | n + 1, found => do
      match ← peek? with
      | some 'g' =>
          drop
          if found.everywhere then refuse "multiple \x60g' options to \x60s' command"
          else flags n { found with everywhere := true }
      | some 'p' =>
          drop
          if found.prints then refuse "multiple \x60p' options to \x60s' command"
          else flags n { found with prints := true }
      | some 'i' | some 'I' =>
          drop
          flags n { found with anyCase := true }
      | some 'm' | some 'M' =>
          drop
          flags n { found with byLine := true }
      | some 'w' =>
          drop
          return { found with target := some (← lineName) }
      | some c =>
          if c.isDigit then
            let count := (← number?).getD 0
            if count = 0 then refuse "number option to \x60s' command may not be zero"
            else if found.first.isSome then
              refuse "multiple number options to \x60s' command"
            else flags n { found with first := some count }
          else if c = ';' ∨ c = '\n' ∨ c = '\x7d' ∨ c = '#' ∨ c = ' ' ∨ c = '\t' then return found
          else
            drop
            refuse "unknown option to \x60s'"
      | none => return found

def substitution : Reading Substitution := do
  let unended {α : Type} : Reading α := refuse "unterminated \x60s' command"
  match ← take? with
  | none => unended
  | some mark =>
      if mark = '\n' ∨ mark = '\\' then unended
      else
        match ← upTo mark true with
        | none => unended
        | some pattern =>
            match ← upTo mark false with
            | none => unended
            | some text =>
                let found ← flags ((← get).rest.length + 1)
                  { everywhere := false, prints := false, first := none, anyCase := false,
                    byLine := false, target := none }
                let (regex, groups) ← regex? pattern found.anyCase found.byLine
                let parts := replacement (text.length + 1) text
                let most := parts.foldl
                  (fun most part =>
                    match part with
                    | .group number => max most number
                    | _ => most) 0
                if regex.isSome ∧ groups < most then
                  refuse ("invalid reference \\" ++ String.ofList (Decimal.digits most) ++
                    " on \x60s' command's RHS")
                else
                  return { regex, parts, everywhere := found.everywhere, prints := found.prints,
                           first := found.first.getD 1, target := found.target }

def listed : Octets → Octets
  | '\\' :: 'n' :: rest => '\n' :: listed rest
  | '\\' :: c :: rest => c :: listed rest
  | c :: rest => c :: listed rest
  | [] => []

def transliteration : Reading (List (Char × Char)) := do
  let unended {α : Type} : Reading α := refuse "unterminated \x60y' command"
  match ← take? with
  | none => unended
  | some mark =>
      match ← upTo mark false with
      | none => unended
      | some first =>
          match ← upTo mark false with
          | none => unended
          | some second =>
              let first := listed first
              let second := listed second
              if first.length ≠ second.length then
                drop
                refuse "strings for \x60y' command are different lengths"
              else return first.zip second

def needsOneAddress (letter : Char) : Bool :=
  letter = 'q' || letter = 'Q'

/-- The action of a command after its letter. -/
def action (letter : Char) : Reading ScriptAction := do
  let simple (action : ScriptAction) : Reading ScriptAction := do
    endCommand
    return action
  match letter with
  | 's' =>
      let found ← substitution
      simple (.substitute found)
  | 'y' =>
      let table ← transliteration
      simple (.transliterate table)
  | 'p' => simple .print
  | 'P' => simple .printStart
  | 'd' => simple .delete
  | 'D' => simple .deleteStart
  | 'q' | 'Q' =>
      skipBlanks
      let status := (← number?).getD 0
      simple (.quit status (letter = 'Q'))
  | '=' => simple .number
  | 'a' => return .append (← addedText)
  | 'i' => return .insert (← addedText)
  | 'c' => return .change (← addedText)
  | 'n' => simple .next
  | 'N' => simple .nextJoined
  | 'h' => simple (.hold false)
  | 'H' => simple (.hold true)
  | 'g' => simple (.fetch false)
  | 'G' => simple (.fetch true)
  | 'x' => simple .exchange
  | 'z' => simple .clear
  | 'l' => simple .reveal
  | 'F' => simple .name
  | 'b' =>
      simple (.branch (← labelName))
  | 't' =>
      simple (.branchIf true (← labelName))
  | 'T' =>
      simple (.branchIf false (← labelName))
  | 'r' => return .readFile (← lineName)
  | 'w' => return .writeFile (← lineName)
  | 'v' =>
      let _ ← lineName
      return .nothing
  | _ => refuse ("unknown command: \x60" ++ String.singleton letter ++ "'")

def add (choice : LineChoice) (action : ScriptAction) : Reading Unit :=
  modify fun reader => { reader with commands := { choice, action } :: reader.commands }

/-- Reads commands to the end of the script. The number bounds them. -/
def commands : Nat → Reading Unit
  | 0 => return
  | n + 1 => do
      let _ ← row fun c => c = ' ' || c = '\t' || c = '\n' || c = ';'
      if (← peek?).isNone then return
      else
        let choice ← choice
        match ← take? with
        | none =>
            if choice.first.isSome ∨ choice.inverted then refuse "missing command" else return
        | some letter =>
            match letter with
            | '#' =>
                if choice.first.isSome then refuse "comments don't accept any addresses"
                else
                  let _ ← row (· != '\n')
                  commands n
            | ':' =>
                if choice.first.isSome then refuse ": doesn't want any addresses"
                else
                  let label ← labelName
                  if label = [] then refuse "\":\" lacks a label"
                  else
                    add choice (.label label)
                    commands n
            | '\x7b' =>
                modify fun reader => { reader with
                  opened := reader.commands.length :: reader.opened }
                add choice (.open_ 0)
                commands n
            | '\x7d' =>
                let reader ← get
                match reader.opened with
                | [] => refuse "unexpected \x60\x7d'"
                | start :: opened =>
                    if choice.first.isSome then
                      refuse "\x7d doesn't want any addresses"
                    else
                      let close := reader.commands.length
                      let closed := (reader.commands.reverse.modify start fun command =>
                        { command with action := .open_ close }).reverse
                      set { reader with commands := closed, opened }
                      add choice .close
                      endCommand
                      commands n
            | letter =>
                if needsOneAddress letter ∧ choice.final.isSome then
                  refuse "command only uses one address"
                else
                  let action ← action letter
                  add choice action
                  commands n

def read (form : RegexForm) (text : Octets) : Except ScriptFault (List ScriptCommand) := do
  let start : Reader :=
    { rest := text, length := text.length, form, commands := [], opened := [] }
  let ((), reader) ← (commands (text.length + 1)).run start
  if reader.opened ≠ [] then .error { place := 0, text := "unmatched \x60\x7b'".toList }
  else return reader.commands.reverse

end Script

end CuratedHistory.Host.Programs
