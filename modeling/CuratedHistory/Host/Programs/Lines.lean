import CuratedHistory.Host.Programs.Filing

namespace CuratedHistory.Host.Programs

/-! Programs that pick, count or order lines. -/

/-- The lines of a content that end with a character, with it. -/
def linesEndedBy (ending : Char) (content : Octets) : List Octets :=
  if ending = '\n' then endedLines content
  else
    let pieces := Text.pieces ending content
    (pieces.dropLast.map (· ++ [ending])) ++ (pieces.getLast?.toList.filter (· ≠ []))

/-- A part of a content, counted in lines or in bytes. -/
inductive Portion where
  | lines (count : Nat)
  | bytes (count : Nat)
  deriving DecidableEq, Repr

/-- From which end a portion is counted, and whether it is taken or left out. -/
structure Extent where
  portion : Portion
  /-- Whether the count tells what is left out. -/
  leavesOut : Bool
  deriving DecidableEq, Repr

namespace Extent

def fromStart (ending : Char) (extent : Extent) (content : Octets) : Octets :=
  match extent.portion, extent.leavesOut with
  | .lines n, false => ((linesEndedBy ending content).take n).flatten
  | .bytes n, false => content.take n
  | .lines n, true =>
      let lines := linesEndedBy ending content
      (lines.take (lines.length - n)).flatten
  | .bytes n, true => content.take (content.length - n)

/-- The part at the end. One that leaves out a count starts at the place of that number. -/
def fromEnd (ending : Char) (extent : Extent) (content : Octets) : Octets :=
  match extent.portion, extent.leavesOut with
  | .lines n, false =>
      let lines := linesEndedBy ending content
      (lines.drop (lines.length - n)).flatten
  | .bytes n, false => content.drop (content.length - n)
  | .lines n, true => ((linesEndedBy ending content).drop (n - 1)).flatten
  | .bytes n, true => content.drop (n - 1)

def number? (word : Octets) : Option Nat :=
  let digits := word.takeWhile Char.isDigit
  let factors : List (String × Nat) :=
    [("", 1), ("b", 512), ("kB", 1000), ("K", 1024), ("KiB", 1024), ("k", 1024),
      ("MB", 1000000), ("M", 1048576), ("m", 1048576)]
  if digits = [] then none
  else
    ((factors.find? (·.1.toList == word.dropWhile Char.isDigit)).map Prod.snd).map
      (Decimal.value digits * ·)

/-- A count after the sign that makes it one of what is left out. -/
def read? (sign : Char) (portion : Nat → Portion) (word : Octets) : Option Extent :=
  match word with
  | '-' :: digits =>
      (number? digits).map fun n => { portion := portion n, leavesOut := sign == '-' }
  | '+' :: digits =>
      (number? digits).map fun n => { portion := portion n, leavesOut := sign == '+' }
  | digits => (number? digits).map fun n => { portion := portion n, leavesOut := false }

end Extent

/-- A part of a content, and how it is told from other parts. -/
structure Excerpt where
  extent : Extent
  /-- What ends a line. -/
  ending : Char
  /-- Whether names stand in front of the parts, if that has been asked for. -/
  headed : Option Bool

namespace Excerpt

def first : Excerpt where
  extent := { portion := .lines 10, leavesOut := false }
  ending := '\n'
  headed := none

/-- A first word of a count and letters, such as -5q. -/
def ofCount? (word : Octets) : Option (Except Octets Excerpt) :=
  match word with
  | '-' :: digit :: rest =>
      if digit.isDigit then
        let digits := (digit :: rest).takeWhile Char.isDigit
        let letters := (digit :: rest).drop digits.length
        match letters.find? fun c => !"cbkmlqvz".toList.contains c with
        | some c => some (.error ("invalid trailing option -- ".toList ++ [c]))
        | none =>
            let n := Decimal.value digits
            let portion : Portion := letters.foldl
              (fun portion letter =>
                match letter with
                | 'c' => .bytes n
                | 'b' => .bytes (512 * n)
                | 'k' => .bytes (1024 * n)
                | 'm' => .bytes (1048576 * n)
                | 'l' => .lines n
                | _ => portion) (.lines n)
            let headed := (letters.filter fun c => c = 'q' || c = 'v').getLast?.map (· == 'v')
            some (.ok {
              extent := { portion, leavesOut := false }
              ending := if letters.contains 'z' then '\x00' else '\n'
              headed })
      else none
  | _ => none

/-- A word of a sign, a count and a letter, which has to be the only one in front of at
most one operand. -/
def ofSignedCount? (words : List Octets) : Option Excerpt :=
  match words with
  | [] => none
  | word :: rest =>
      let isAlone :=
        match rest with
        | [] => true
        | [next] => next = ['-'] || next.head? != some '-' || next = ['-', '-']
        | [next, _] => next = ['-', '-']
        | _ => false
      match word with
      | sign :: after =>
          let digits := after.takeWhile Char.isDigit
          let letters := after.drop digits.length
          let isKnown := letters = [] || letters = ['c'] || letters = ['b'] || letters = ['l']
          let isSign := sign = '+' || (sign = '-' && after ≠ [] && after ≠ ['c'])
          if isAlone && isSign && isKnown then
            let n := if digits = [] then 10 else Decimal.value digits
            let portion : Portion :=
              if letters = ['c'] then .bytes n
              else if letters = ['b'] then .bytes (512 * n)
              else .lines n
            some { first with extent := { portion, leavesOut := sign = '+' } }
          else none
      | [] => none

end Excerpt

/-- Digits as letters of options, which they are not in the end. -/
def digitForms : List OptionForm :=
  "0123456789".toList.map fun digit => .letterOnly digit .absent

def portioning (sign : Char) (start : List Octets → Except Octets (Excerpt × List Octets))
    (take : Char → Extent → Octets → Octets) : Program :=
  fun name words console =>
    match start words with
    | .error text => console.failUsage name text 1
    | .ok (excerpt, words) =>
        let scan := OptionScan.ofWords
          ([.both 'c' "bytes" .required, .both 'n' "lines" .required, .both 'q' "quiet" .absent,
            .nameOnly "silent" .absent, .both 'v' "verbose" .absent,
            .both 'z' "zero-terminated" .absent, .both 'f' "follow" .optional] ++
            digitForms) true words
        let step (excerpt : Excerpt) (option : String × Octets) : Except Octets Excerpt :=
          let readAs (portion : Nat → Portion) (what : String) : Except Octets Excerpt :=
            match Extent.read? sign portion option.2 with
            | some extent => .ok { excerpt with extent }
            | none => .error ("invalid number of ".toList ++ what.toList ++ ": ".toList ++
                Quoting.between option.2)
          match option.1 with
          | "bytes" => readAs .bytes "bytes"
          | "lines" => readAs .lines "lines"
          | "quiet" | "silent" => .ok { excerpt with headed := some false }
          | "verbose" => .ok { excerpt with headed := some true }
          | "zero-terminated" => .ok { excerpt with ending := '\x00' }
          | _ => .ok excerpt
        let digit (options : List (String × Octets)) : Option Octets :=
          (options.find? fun option => option.1.all Char.isDigit).map (·.1.toList)
        match scan.given.map fun options => (options, digit options) with
        | .error text => console.failUsage name text 1
        | .ok (_, some digit) =>
            if sign = '-' then
              console.failUsage name ("invalid trailing option -- ".toList ++ digit) 1
            else console.fail name ("option used in invalid context -- ".toList ++ digit) 1
        | .ok (options, none) =>
            match options.foldlM step excerpt with
            | .error text => console.fail name text 1
            | .ok excerpt =>
                let operands := if scan.operands = [] then [['-']] else scan.operands
                let headed := excerpt.headed.getD (1 < operands.length)
                let (console, status, _) := operands.foldl
                  (fun (console, status, first) operand =>
                    let shown := if operand = ['-'] then "standard input".toList else operand
                    let header :=
                      if headed then
                        (if first then [] else ['\n']) ++ "==> ".toList ++ shown ++
                          " <==\n".toList
                      else []
                    match Console.readOperand console operand with
                    | (.ok octets, console) =>
                        (console.print (header ++ take excerpt.ending excerpt.extent octets),
                          status, false)
                    | (.error .isDirectory, console) =>
                        ((console.print header).complain (name ++ ": error reading ".toList ++
                          Quoting.forShell operand ++ ": Is a directory".toList), 1, false)
                    | (.error cause, console) =>
                        (console.complain (name ++ ": cannot open ".toList ++
                          Quoting.forShell operand ++ " for reading: ".toList ++
                          cause.plainMessage), 1, first))
                  (console, 0, true)
                (console, status)

def head : Program :=
  portioning '-'
    (fun words =>
      match words with
      | [] => .ok (.first, [])
      | word :: rest =>
          match Excerpt.ofCount? word with
          | none => .ok (.first, word :: rest)
          | some (.ok excerpt) => .ok (excerpt, rest)
          | some (.error text) => .error text)
    Extent.fromStart

def tail : Program :=
  portioning '+'
    (fun words =>
      match Excerpt.ofSignedCount? words with
      | some excerpt => .ok (excerpt, words.tail)
      | none => .ok (.first, words))
    Extent.fromEnd

/-- What is counted in a content. -/
structure Tally where
  lines : Nat
  words : Nat
  characters : Nat
  bytes : Nat
  longest : Nat

namespace Tally

def isSpace (c : Char) : Bool :=
  c = ' ' || (9 ≤ c.toNat && c.toNat ≤ 13)

/-- The number of rows of bytes that are no space. -/
def wordCount : Bool → Octets → Nat
  | _, [] => 0
  | inWord, c :: rest =>
      if isSpace c then wordCount false rest
      else (if inWord then 0 else 1) + wordCount true rest

/-- The column after a byte. -/
def column (before : Nat) (c : Char) : Nat :=
  if c = '\t' then before + 8 - before % 8
  else if 32 ≤ c.toNat ∧ c.toNat < 127 then before + 1
  else before

/-- The width of the widest line, given the widest one before and the column. -/
def widest : Nat → Nat → Octets → Nat
  | longest, place, [] => max longest place
  | longest, place, c :: rest =>
      if c = '\n' ∨ c = '\r' ∨ c = '\x0c' then widest (max longest place) 0 rest
      else widest longest (column place c) rest

def ofContent (content : Octets) : Tally where
  lines := content.count '\n'
  words := wordCount false content
  characters := content.length
  bytes := content.length
  longest := widest 0 0 content

def add (first second : Tally) : Tally where
  lines := first.lines + second.lines
  words := first.words + second.words
  characters := first.characters + second.characters
  bytes := first.bytes + second.bytes
  longest := max first.longest second.longest

def zero : Tally where
  lines := 0
  words := 0
  characters := 0
  bytes := 0
  longest := 0

/-- The numbers asked for, in a fixed order. -/
def columns (tally : Tally) (asked : List String) : List Nat :=
  [("lines", tally.lines), ("words", tally.words), ("chars", tally.characters),
    ("bytes", tally.bytes), ("max-line-length", tally.longest)].filterMap fun entry =>
      if asked.contains entry.1 then some entry.2 else none

/-- A row of numbers in columns of a width, and a name behind it. -/
def row (width : Nat) (numbers : List Nat) (name : Option Octets) : Octets :=
  Text.join [' '] (numbers.map fun n =>
    let digits := Decimal.digits n
    List.replicate (width - digits.length) ' ' ++ digits) ++
    (match name with
      | some name => ' ' :: name
      | none => []) ++ ['\n']

end Tally

/-- When a row with the sums is written. -/
inductive TotalRow where
  | ofSeveral
  | always
  | alone
  | never
  deriving DecidableEq, Repr

namespace Tally

def totalWords : List (String × TotalRow) :=
  [("auto", .ofSeveral), ("always", .always), ("only", .alone), ("never", .never)]

/-- The width of the numbers. What is no file has a size that is not known before. -/
def width (console : Console) (operands : List Octets) (counts : Nat) : Nat :=
  if operands.length = 1 ∧ counts = 1 then 1
  else
    let sizes : List (Nat × Bool) := operands.map fun operand =>
      if operand = ['-'] then
        if console.rewinds then (console.input.length, false) else (0, true)
      else
        match console.node? operand with
        | .ok (.file _ content) => (content.length, false)
        | .ok _ => (0, true)
        | .error _ => (0, false)
    let known := (sizes.map Prod.fst).foldl (· + ·) 0
    max (Decimal.digits known).length (if sizes.any Prod.snd then 7 else 1)

/-- The names in a file, each with a zero after it. -/
def operandsFrom (console : Console) (path : Octets) : Except Octets (List Octets) × Console :=
  match console.readOperand path with
  | (.ok octets, console) =>
      (.ok ((linesEndedBy '\x00' octets).map fun name => name.filter (· != '\x00')), console)
  | (.error cause, console) =>
      (.error ("cannot open ".toList ++ Quoting.forShell path ++ " for reading: ".toList ++
        cause.plainMessage), console)

/-- Counts what is in the operands, and writes the counts. -/
def report (name : Octets) (asked : List String) (rowOfTotal : TotalRow) (isNamed : Bool)
    (operands : List Octets) (console : Console) : Console × Nat :=
  let width :=
    if rowOfTotal = .alone then 1
    else width console operands (zero.columns asked).length
  let (console, total, status) := operands.foldl
    (fun (console, total, status) operand =>
      let row (tally : Tally) : Octets :=
        if rowOfTotal = .alone then []
        else Tally.row width (tally.columns asked) (if isNamed then some operand else none)
      match Console.readOperand console operand with
      | (.ok octets, console) =>
          let tally := ofContent octets
          (console.print (row tally), total.add tally, status)
      | (.error cause, console) =>
          let console := console.complain (name ++ ": ".toList ++ Quoting.asName operand ++
            ": ".toList ++ cause.plainMessage)
          ((if cause = .isDirectory then console.print (row zero) else console), total, 1))
    (console, zero, 0)
  let hasTotal : Bool :=
    match rowOfTotal with
    | .ofSeveral => 1 < operands.length
    | .always | .alone => true
    | .never => false
  let label := if rowOfTotal = .alone then none else some "total".toList
  (console.print (if hasTotal then Tally.row width (total.columns asked) label else []), status)

end Tally

def wc : Program := fun name words console =>
  let scan := OptionScan.ofWords
    [.both 'c' "bytes" .absent, .both 'm' "chars" .absent, .both 'l' "lines" .absent,
      .both 'w' "words" .absent, .nameOnly "debug" .absent,
      .nameOnly "files0-from" .required, .both 'L' "max-line-length" .absent,
      .nameOnly "total" .required] true words
  match scan.given with
  | .error text => console.failUsage name text 1
  | .ok options =>
      let counts := (options.map Prod.fst).filter fun key =>
        key != "total" && key != "files0-from" && key != "debug"
      let asked := if counts = [] then ["lines", "words", "bytes"] else counts
      let given (key : String) : Option Octets :=
        ((options.filter (·.1 == key)).getLast?).map Prod.snd
      let word := (given "total").getD "auto".toList
      match Filing.chosen Tally.totalWords word with
      | .error problem =>
          console.failUsage name (problem.text word "--total"
            (Tally.totalWords.map fun entry => "'" ++ entry.1 ++ "'")) 1
      | .ok rowOfTotal =>
          match given "files0-from", scan.operands with
          | none, [] => Tally.report name asked rowOfTotal false [['-']] console
          | none, operands => Tally.report name asked rowOfTotal true operands console
          | some path, [] =>
              match Tally.operandsFrom console path with
              | (.error text, console) => console.fail name text 1
              | (.ok operands, console) =>
                  Tally.report name asked rowOfTotal true operands console
          | some _, extra :: _ =>
              console.failUsage name ("extra operand ".toList ++ Quoting.forShell extra ++
                "\nfile operands cannot be combined with --files0-from".toList) 1

def tee : Program := fun name words console =>
  let scan := OptionScan.ofWords
    [.both 'a' "append" .absent, .both 'i' "ignore-interrupts" .absent, .letterOnly 'p' .absent,
      .nameOnly "output-error" .optional] true words
  match scan.given with
  | .error text => console.failUsage name text 1
  | .ok options =>
      let (input, console) := console.readAll
      let (console, status) := console.forEach scan.operands fun path console =>
        let before :=
          if options.any (·.1 == "append") then
            match console.readFile path with
            | .ok octets => octets
            | .error _ => []
          else []
        match console.writeFile path (before ++ input) with
        | .ok console => (console, 0)
        | .error cause =>
            console.fail name (Quoting.asName path ++ ": ".toList ++ cause.plainMessage) 1
      (console.print input, status)

/-- Whether an option was given. -/
def wants (options : List (String × Octets)) (key : String) : Bool :=
  options.any (·.1 == key)

namespace Repeats

def runs (same : Octets → Octets → Bool) : List Octets → List (List Octets)
  | [] => []
  | line :: rest =>
      match runs same rest with
      | (next :: others) :: following =>
          if same line next then (line :: next :: others) :: following
          else [line] :: (next :: others) :: following
      | _ => [[line]]

/-- What of a line is compared. -/
structure Part where
  fields : Nat
  characters : Nat
  most : Option Nat
  anyCase : Bool

def Part.isGap (c : Char) : Bool :=
  c = ' ' || c = '\t' || c = '\n'

def Part.afterFields : Nat → Octets → Octets
  | 0, line => line
  | n + 1, line => afterFields n ((line.dropWhile isGap).dropWhile (!isGap ·))

def Part.ofLine (part : Part) (line : Octets) : Octets :=
  let rest := (Part.afterFields part.fields line).drop part.characters
  let kept :=
    match part.most with
    | some n => rest.take n
    | none => rest
  if part.anyCase then kept.map Char.toUpper else kept

/-- Where an empty line stands between rows. -/
inductive Gap where
  | none
  | before
  | between
  | after
  | both
  deriving DecidableEq, Repr

def repeatedWords : List (String × Gap) :=
  [("none", .none), ("prepend", .before), ("separate", .between)]

def groupWords : List (String × Gap) :=
  [("prepend", .before), ("append", .after), ("separate", .between), ("both", .both)]

def spaced (gap : Gap) (runs : List (List Octets)) : List Octets :=
  let blank : List Octets := [[]]
  match gap with
  | .none => runs.flatten
  | .before => runs.flatMap fun run => blank ++ run
  | .after => runs.flatMap fun run => run ++ blank
  | .between => ((runs.take 1).flatten) ++ (runs.drop 1).flatMap fun run => blank ++ run
  | .both => if runs = [] then [] else blank ++ runs.flatMap fun run => run ++ blank

def counted (run : List Octets) : Octets :=
  let digits := Decimal.digits run.length
  List.replicate (7 - digits.length) ' ' ++ digits ++ ' ' :: run.headD []

/-- The number in a word, for an option whose meaning is given. -/
def numberOf (word : Octets) (what : String) : Except Octets Nat :=
  match Decimal.read? word with
  | some n => .ok n
  | none => .error (word ++ ": invalid number of ".toList ++ what.toList)

/-- A first word such as -2 or +3 as the option that it stands for. -/
def withCountOption : List Octets → List Octets
  | (sign :: digits) :: rest =>
      if digits ≠ [] ∧ digits.all Char.isDigit ∧ sign = '-' then
        "-f".toList :: digits :: rest
      else (sign :: digits) :: rest
  | words => words

end Repeats

def uniq : Program := fun name words console =>
  let scan := OptionScan.ofWords
    [.both 'c' "count" .absent, .both 'd' "repeated" .absent, .letterOnly 'D' .absent,
      .nameOnly "all-repeated" .optional, .nameOnly "group" .optional,
      .both 'i' "ignore-case" .absent, .both 'u' "unique" .absent,
      .both 'f' "skip-fields" .required, .both 's' "skip-chars" .required,
      .both 'w' "check-chars" .required, .both 'z' "zero-terminated" .absent] true
    (Repeats.withCountOption words)
  let given (options : List (String × Octets)) (key : String) : Option Octets :=
    ((options.filter (·.1 == key)).getLast?).map Prod.snd
  match scan.given with
  | .error text => console.failUsage name text 1
  | .ok options =>
      let number (key what : String) : Except Octets (Option Nat) :=
        match given options key with
        | none => .ok none
        | some word => (Repeats.numberOf word what).map some
      let numbers : Except Octets Repeats.Part := do
        let fields ← number "skip-fields" "fields to skip"
        let characters ← number "skip-chars" "bytes to skip"
        let most ← number "check-chars" "bytes to compare"
        return {
          fields := fields.getD 0
          characters := characters.getD 0
          most
          anyCase := wants options "ignore-case" }
      match numbers, scan.operands.drop 2 with
      | .error text, _ => console.fail name text 1
      | .ok _, extra :: _ =>
          console.failUsage name ("extra operand ".toList ++ Quoting.forShell extra) 1
      | .ok part, [] =>
          let groupWord := given options "group"
          let repeatedWord := given options "all-repeated"
          let allRepeated := wants options "D" || repeatedWord.isSome
          let grouped := groupWord.isSome
          let badWord : Option Octets :=
            match repeatedWord, groupWord with
            | some word, _ =>
                if word = [] then none
                else
                  match Filing.chosen Repeats.repeatedWords word with
                  | .ok _ => none
                  | .error problem => some (problem.text word "--all-repeated"
                      (Repeats.repeatedWords.map fun entry => "'" ++ entry.1 ++ "'"))
            | none, some word =>
                if word = [] then none
                else
                  match Filing.chosen Repeats.groupWords word with
                  | .ok _ => none
                  | .error problem => some (problem.text word "--group"
                      (Repeats.groupWords.map fun entry => "'" ++ entry.1 ++ "'"))
            | none, none => none
          let clash : Option String :=
            if grouped ∧ (wants options "count" ∨ wants options "repeated" ∨ allRepeated ∨
                wants options "unique") then
              some "--group is mutually exclusive with -c/-d/-D/-u"
            else if wants options "count" ∧ allRepeated then
              some "printing all duplicated lines and repeat counts is meaningless"
            else none
          match badWord, clash with
          | some text, _ => console.failUsage name text 1
          | none, some text => console.failUsage name text.toList 1
          | none, none =>
              let source := scan.operands.head?.getD ['-']
              match console.readOperand source with
              | (.error cause, console) =>
                  console.fail name
                    (if cause = .isDirectory then
                      "error reading ".toList ++ Quoting.forShell source ++
                        ": Is a directory".toList
                    else Quoting.asName source ++ ": ".toList ++ cause.plainMessage) 1
              | (.ok content, console) =>
                  let ending := if wants options "zero-terminated" then '\x00' else '\n'
                  let lines := (linesEndedBy ending content).map fun line =>
                    if line.getLast? = some ending then line.dropLast else line
                  let runs := Repeats.runs
                    (fun first second => part.ofLine first == part.ofLine second) lines
                  let gap : Repeats.Gap :=
                    if allRepeated then
                      ((Filing.chosen Repeats.repeatedWords
                        (repeatedWord.getD [])).toOption).getD .none
                    else if groupWord = some [] then .between
                    else ((Filing.chosen Repeats.groupWords
                      (groupWord.getD [])).toOption).getD .none
                  let kept := runs.filter fun run =>
                    (!(wants options "repeated" || allRepeated) || 1 < run.length) &&
                      (!wants options "unique" || run.length = 1)
                  let rows :=
                    if allRepeated ∨ grouped then Repeats.spaced gap kept
                    else if wants options "count" then kept.map Repeats.counted
                    else kept.map fun run => run.headD []
                  let output := rows.flatMap (· ++ [ending])
                  match scan.operands.drop 1 with
                  | [] | [['-']] => (console.print output, 0)
                  | target :: _ =>
                      match console.writeFile target output with
                      | .ok console => (console, 0)
                      | .error cause =>
                          console.fail name (Quoting.asName target ++ ": ".toList ++
                            cause.plainMessage) 1

namespace Reversal

def behind (separator : Octets) : Nat → Octets → Octets → List Octets
  | 0, _, _ => []
  | _ + 1, record, [] => if record = [] then [] else [record]
  | n + 1, record, c :: rest =>
      if separator.isPrefixOf (c :: rest) then
        (record ++ separator) ::
          behind separator n [] ((c :: rest).drop separator.length)
      else behind separator n (record ++ [c]) rest

/-- The records with a separator in front of each but the first. -/
def inFront (separator : Octets) : Nat → Octets → Octets → List Octets
  | 0, _, _ => []
  | _ + 1, record, [] => [record]
  | n + 1, record, c :: rest =>
      if separator.isPrefixOf (c :: rest) then
        record :: inFront separator n separator ((c :: rest).drop separator.length)
      else inFront separator n (record ++ [c]) rest

end Reversal

def tac : Program := fun name words console =>
  let scan := OptionScan.ofWords
    [.both 'b' "before" .absent, .both 'r' "regex" .absent, .both 's' "separator" .required]
    true words
  match scan.given with
  | .error text => console.failUsage name text 1
  | .ok options =>
      let word := ((options.filter (·.1 == "separator")).getLast?.map Prod.snd).getD ['\n']
      let separator := if word = [] then ['\x00'] else word
      let operands := if scan.operands = [] then [['-']] else scan.operands
      console.forEach operands fun operand console =>
        match console.readOperand operand with
        | (.ok octets, console) =>
            let records :=
              if wants options "before" then
                Reversal.inFront separator (octets.length + 1) [] octets
              else Reversal.behind separator (octets.length + 1) [] octets
            (console.print records.reverse.flatten, 0)
        | (.error cause, console) =>
            console.fail name
              (if cause = .isDirectory then
                Quoting.asName operand ++ ": read error: Invalid argument".toList
              else
                "failed to open ".toList ++ Quoting.forShell operand ++
                  " for reading: ".toList ++ cause.plainMessage) 1

def rev : Program := fun name words console =>
  let scan := OptionScan.ofWords [] true words
  match scan.given with
  | .error text => console.failUsage name text 1
  | .ok _ =>
      let operands := if scan.operands = [] then [['-']] else scan.operands
      console.forEach operands fun operand console =>
        match console.readOperand operand with
        | (.ok octets, console) =>
            (console.print ((endedLines octets).flatMap fun line =>
              (withoutLineFeed line).reverse ++
                if line.getLast? = some '\n' then ['\n'] else []), 0)
        | (.error cause, console) =>
            console.fail name ("cannot open ".toList ++ operand ++ ": ".toList ++
              cause.plainMessage) 1

end CuratedHistory.Host.Programs
