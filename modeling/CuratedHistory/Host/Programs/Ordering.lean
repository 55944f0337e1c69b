import CuratedHistory.Host.Programs.Filing
import CuratedHistory.Host.Programs.Lines
import CuratedHistory.Host.Text.Numeral
import CuratedHistory.Host.Text.VersionOrder

namespace CuratedHistory.Host.Programs

/-! Bringing lines into an order, by all of each line or by some of its fields. -/

/-- A piece of each line with the rules that it is compared by, each of them a letter. -/
structure SortKey where
  /-- How many fields precede the piece; none for a whole line. -/
  fieldsBefore : Option Nat
  /-- How many characters after that do. -/
  charactersBefore : Nat
  /-- The last field of the piece, and how many of its characters belong to it, or none
  for all of them. -/
  last : Option (Nat × Nat)
  skipsBlanks : Bool
  skipsBlanksAtEnd : Bool
  rules : List Char

namespace SortKey

def whole : SortKey where
  fieldsBefore := none
  charactersBefore := 0
  last := none
  skipsBlanks := false
  skipsBlanksAtEnd := false
  rules := []

def ruleLetters : List Char :=
  "dfghiMnRrV".toList

/-- Whether nothing but a reversed order is asked for. -/
def isDefault (key : SortKey) : Bool :=
  !key.skipsBlanks && !key.skipsBlanksAtEnd && key.rules.all (· == 'r')

/-- The key with the rules for all keys, if it has none of its own. -/
def inherit (general key : SortKey) : SortKey :=
  if key.isDefault ∧ key.rules = [] then
    { key with
      skipsBlanks := general.skipsBlanks
      skipsBlanksAtEnd := general.skipsBlanksAtEnd
      rules := general.rules }
  else key

def isGap (c : Char) : Bool :=
  c = ' ' || c = '\t' || c = '\n'

def skipFields (separator : Option Char) : Nat → Octets → Octets
  | 0, line => line
  | n + 1, line =>
      skipFields separator n
        (match separator with
          | some c => (line.dropWhile (· != c)).drop 1
          | none => (line.dropWhile isGap).dropWhile (!isGap ·))

def dropGap (skips : Bool) (line : Octets) : Octets :=
  if skips then line.dropWhile isGap else line

/-- The start of a piece, as what follows it. -/
def fromStart (key : SortKey) (separator : Option Char) (line : Octets) : Octets :=
  match key.fieldsBefore with
  | none => dropGap key.skipsBlanks line
  | some n =>
      (dropGap key.skipsBlanks (skipFields separator n line)).drop key.charactersBefore

def afterEnd (key : SortKey) (separator : Option Char) (line : Octets) : Octets :=
  match key.last with
  | none => []
  | some (field, 0) =>
      match separator with
      | some c => (skipFields separator (field - 1) line).dropWhile (· != c)
      | none => skipFields separator field line
  | some (field, characters) =>
      (dropGap key.skipsBlanksAtEnd (skipFields separator (field - 1) line)).drop characters

def piece (key : SortKey) (separator : Option Char) (line : Octets) : Octets :=
  let start := key.fromStart separator line
  start.take (start.length - (key.afterEnd separator line).length)

end SortKey

namespace Sorting

/-- The number at the start of a line as its sign, its whole digits without zeros in
front, and the digits of its fraction without zeros behind. -/
def number (line : Octets) : Bool × Octets × Octets :=
  let line := line.dropWhile SortKey.isGap
  let (negative, line) :=
    match line with
    | '-' :: rest => (true, rest)
    | line => (false, line)
  let whole := (line.takeWhile Char.isDigit).dropWhile (· == '0')
  let fraction :=
    match line.dropWhile Char.isDigit with
    | '.' :: rest => ((rest.takeWhile Char.isDigit).reverse.dropWhile (· == '0')).reverse
    | _ => []
  (negative && (whole ≠ [] || fraction ≠ []), whole, fraction)

def compareOctets (first second : Octets) : Ordering :=
  if first = second then .eq else if Text.atMost first second then .lt else .gt

def compareNumbers (first second : Octets) : Ordering :=
  let (firstNegative, firstWhole, firstFraction) := number first
  let (secondNegative, secondWhole, secondFraction) := number second
  let size : Ordering :=
    (compare firstWhole.length secondWhole.length).then
      (compareOctets (firstWhole ++ firstFraction) (secondWhole ++ secondFraction))
  match firstNegative, secondNegative with
  | true, false => .lt
  | false, true => .gt
  | false, false => size
  | true, true => size.swap

/-- How large the unit after a number is, below zero if the number is. -/
def unitOf (line : Octets) : Int :=
  let line := line.dropWhile SortKey.isGap
  let (sign, line) :=
    match line with
    | '-' :: rest => ((-1 : Int), rest)
    | line => (1, line)
  let digits := line.takeWhile fun c => c.isDigit || c = '.'
  let rank (c : Char) : Nat :=
    if c = 'k' then 1
    else ((["K", "M", "G", "T", "P", "E", "Z", "Y", "R", "Q"].findIdx? (·.toList == [c])).map
      (· + 1)).getD 0
  if digits.any fun c => c.isDigit && c != '0' then
    sign * ((line.drop digits.length).head?.map rank).getD 0
  else 0

/-- A number with an exponent: its class, the classes being in order, and inside the
class of plain numbers its count of the smallest steps there are here. -/
def scientific (line : Octets) : Nat × Int :=
  let line := line.dropWhile Numeral.isSpace
  let (sign, line) :=
    match line with
    | '-' :: rest => ((-1 : Int), rest)
    | '+' :: rest => (1, rest)
    | line => (1, line)
  let word := (line.take 3).map Char.toLower
  let digits (text : Octets) : Int := Decimal.value (text.takeWhile Char.isDigit)
  let whole := line.takeWhile Char.isDigit
  let (fraction, rest) :=
    match line.dropWhile Char.isDigit with
    | '.' :: rest => (rest.takeWhile Char.isDigit, rest.dropWhile Char.isDigit)
    | rest => ([], rest)
  if word = "nan".toList then (1, 0)
  else if word = "inf".toList then (if sign < 0 then 2 else 4, 0)
  else if whole = [] ∧ fraction = [] then (0, 0)
  else
    let exponent : Int :=
      match rest with
      | e :: '-' :: rest => if e = 'e' ∨ e = 'E' then -(digits rest) else 0
      | e :: '+' :: rest => if e = 'e' ∨ e = 'E' then digits rest else 0
      | e :: rest => if e = 'e' ∨ e = 'E' then digits rest else 0
      | [] => 0
    let steps := 400 + max (-400) (min 400 exponent) - fraction.length
    let number : Int :=
      match Text.after? "0x".toList (line.map Char.toLower) with
      | some rest =>
          Decimal.value ((Decimal.digits (Numeral.value 16 (Numeral.row 16 rest))) ++
            List.replicate 400 '0')
      | none => Decimal.value (whole ++ fraction ++ List.replicate steps.toNat '0')
    (3, sign * number)

def compareScientific (first second : Octets) : Ordering :=
  (compare (scientific first).1 (scientific second).1).then
    (compare (scientific first).2 (scientific second).2)

/-- The number of a month by its first three letters, zero for anything else. -/
def monthOf (line : Octets) : Nat :=
  let name := ((line.dropWhile SortKey.isGap).take 3).map Char.toUpper
  ((["JAN", "FEB", "MAR", "APR", "MAY", "JUN", "JUL", "AUG", "SEP", "OCT", "NOV",
    "DEC"].findIdx? (·.toList == name)).map (· + 1)).getD 0

/-- What of a piece counts, under rules that leave characters out or fold them. -/
def counted (rules : List Char) (piece : Octets) : Octets :=
  let kept :=
    if rules.contains 'd' then piece.filter fun c => SortKey.isGap c || c.isAlphanum
    else if rules.contains 'i' then piece.filter Quoting.isPrintable
    else piece
  if rules.contains 'f' then kept.map Char.toUpper else kept

def comparePieces (rules : List Char) (first second : Octets) : Ordering :=
  let folded := fun piece => counted rules piece
  let order :=
    if rules.contains 'n' then compareNumbers first second
    else if rules.contains 'g' then compareScientific first second
    else if rules.contains 'h' then
      (compare (unitOf first) (unitOf second)).then (compareNumbers first second)
    else if rules.contains 'M' then compare (monthOf first) (monthOf second)
    else if rules.contains 'V' then VersionOrder.compareNames (folded first) (folded second)
    else compareOctets (folded first) (folded second)
  if rules.contains 'r' then order.swap else order

/-- How lines are ordered. -/
structure Plan where
  general : SortKey
  keys : List SortKey
  separator : Option Char
  /-- Of lines that are equal in their keys only the first is kept. -/
  unique : Bool
  /-- Lines that are equal in their keys stay in their order. -/
  stable : Bool
  /-- What ends a line. -/
  ending : Char

def Plan.start : Plan where
  general := .whole
  keys := []
  separator := none
  unique := false
  stable := false
  ending := '\n'

/-- The keys that lines are compared by; without any, a rule for all takes the whole
line. -/
def Plan.activeKeys (plan : Plan) : List SortKey :=
  match plan.keys with
  | [] => if plan.general.isDefault then [] else [plan.general]
  | keys => keys.map plan.general.inherit

def Plan.compareKeys (plan : Plan) (first second : Octets) : Ordering :=
  plan.activeKeys.foldl
    (fun order key =>
      order.then (comparePieces key.rules (key.piece plan.separator first)
        (key.piece plan.separator second)))
    .eq

/-- The order of two lines. Lines that are equal in their keys are told apart by all of
their content, unless they are to count as equal. -/
def Plan.order (plan : Plan) (first second : Octets) : Ordering :=
  let byKeys := plan.compareKeys first second
  if byKeys != .eq then byKeys
  else if (plan.unique || plan.stable) && !plan.activeKeys.isEmpty then .eq
  else
    let order := compareOctets first second
    if plan.general.rules.contains 'r' then order.swap else order

/-- The lines without those that are equal to the line before. -/
def distinct (same : Octets → Octets → Bool) : List Octets → List Octets
  | [] => []
  | line :: rest =>
      match distinct same rest with
      | next :: following =>
          if same line next then line :: following else line :: next :: following
      | [] => [line]

/-- Two lists of lines as one, at each step the line that comes first. -/
def merge (atMost : Octets → Octets → Bool) : List Octets → List Octets → List Octets
  | [], others => others
  | line :: rest, others =>
      let earlier := others.takeWhile fun other => !atMost line other
      earlier ++ line :: merge atMost rest (others.drop earlier.length)

/-- The first line that must not follow the one before it, with its number. -/
def disorder? (inOrder : Octets → Octets → Bool) : Nat → List Octets → Option (Nat × Octets)
  | n, first :: second :: rest =>
      if inOrder first second then disorder? inOrder (n + 1) (second :: rest)
      else some (n + 1, second)
  | _, _ => none

/-! The key in a word, such as 2.3n,4. -/

def badKey (what : String) (word : Octets) : Octets :=
  what.toList ++ ": invalid field specification ".toList ++ Quoting.between word

/-- The count at the start, and what follows it. -/
def count (what : String) (word : Octets) : Except Octets (Nat × Octets) :=
  match word.takeWhile Char.isDigit with
  | [] => .error (what.toList ++ ": invalid count at start of ".toList ++ Quoting.between word)
  | digits => .ok (Decimal.value digits, word.drop digits.length)

/-- A field and a character in it, the latter zero if there is none, and what follows. -/
def place (whole word : Octets) (start : String) : Except Octets (Nat × Option Nat × Octets) := do
  let (field, rest) ← count start word
  if field = 0 then .error (badKey "field number is zero" whole)
  else
    match rest with
    | '.' :: rest =>
        let (character, rest) ← count "invalid number after '.'" rest
        return (field, some character, rest)
    | rest => return (field, none, rest)

def isRule (c : Char) : Bool :=
  c = 'b' || SortKey.ruleLetters.contains c

def key (word : Octets) : Except Octets SortKey := do
  let (field, character, rest) ← place word word "invalid number at field start"
  if character = some 0 then .error (badKey "character offset is zero" word)
  else
    let charactersBefore := (character.getD 1) - 1
    let letters := rest.takeWhile isRule
    let key : SortKey := {
      fieldsBefore := if field = 1 ∧ charactersBefore = 0 then none else some (field - 1)
      charactersBefore
      last := none
      skipsBlanks := letters.contains 'b'
      skipsBlanksAtEnd := false
      rules := letters.filter (· != 'b') }
    match rest.drop letters.length with
    | [] => return key
    | ',' :: second =>
        let (field, character, rest) ← place word second "invalid number after ','"
        let letters := rest.takeWhile isRule
        if rest.length ≠ letters.length then
          .error (badKey "stray character in field spec" word)
        else
          return { key with
            last := some (field, character.getD 0)
            skipsBlanksAtEnd := letters.contains 'b'
            rules := key.rules ++ letters.filter (· != 'b') }
    | _ => .error (badKey "stray character in field spec" word)

def conflict? (key : SortKey) : Option Octets :=
  let kinds := (("nghM".toList.filter key.rules.contains).length) +
    (if "VRdi".toList.any key.rules.contains then 1 else 0)
  if 1 < kinds then
    some ("options '-".toList ++
      (SortKey.ruleLetters.filter fun c => c != 'r' && key.rules.contains c &&
        !(c == 'i' && key.rules.contains 'd')) ++ "' are incompatible".toList)
  else none

/-- What is wrong with an option, and whether it is told how the program is used. -/
structure Problem where
  text : Octets
  pointsToUsage : Bool

def Problem.plain (text : Octets) : Problem where
  text
  pointsToUsage := false

/-- What is to be done with the lines. -/
structure Request where
  plan : Plan
  /-- The letter of the option, if the order is only looked at. -/
  checks : Option Char
  merges : Bool
  output : Option Octets

def sortWords : List (String × Char) :=
  [("general-numeric", 'g'), ("human-numeric", 'h'), ("month", 'M'), ("numeric", 'n'),
    ("random", 'R'), ("version", 'V')]

def checkWords : List (String × Char) :=
  [("quiet", 'C'), ("silent", 'C'), ("diagnose-first", 'c')]

def separator (word : Octets) : Except Octets Char :=
  match word with
  | [] => .error "empty tab".toList
  | [c] => .ok c
  | ['\\', '0'] => .ok '\x00'
  | word => .error ("multi-character tab ".toList ++ Quoting.between word)

def Request.withRule (request : Request) (letter : Char) : Request :=
  let general := request.plan.general
  { request with
    plan := { request.plan with general := { general with rules := general.rules ++ [letter] } } }

def Request.withOption (request : Request) (option : String × Octets) :
    Except Problem Request :=
  let plan := request.plan
  match option.1 with
  | "ignore-leading-blanks" =>
      .ok { request with
        plan := { plan with
          general := { plan.general with skipsBlanks := true, skipsBlanksAtEnd := true } } }
  | "dictionary-order" => .ok (request.withRule 'd')
  | "ignore-case" => .ok (request.withRule 'f')
  | "general-numeric-sort" => .ok (request.withRule 'g')
  | "human-numeric-sort" => .ok (request.withRule 'h')
  | "ignore-nonprinting" => .ok (request.withRule 'i')
  | "month-sort" => .ok (request.withRule 'M')
  | "numeric-sort" => .ok (request.withRule 'n')
  | "random-sort" => .ok (request.withRule 'R')
  | "reverse" => .ok (request.withRule 'r')
  | "version-sort" => .ok (request.withRule 'V')
  | "sort" =>
      match Filing.chosen sortWords option.2 with
      | .ok letter => .ok (request.withRule letter)
      | .error problem =>
          .error {
            text := problem.text option.2 "--sort" (sortWords.map fun entry => "'" ++ entry.1 ++ "'")
            pointsToUsage := true }
  | "c" => .ok { request with checks := some 'c' }
  | "C" => .ok { request with checks := some 'C' }
  | "check" =>
      if option.2 = [] then .ok { request with checks := some 'c' }
      else
        match Filing.chosen checkWords option.2 with
        | .ok letter => .ok { request with checks := some letter }
        | .error problem =>
            .error {
              text := problem.text option.2 "--check" ["'quiet', 'silent'", "'diagnose-first'"]
              pointsToUsage := true }
  | "key" =>
      match key option.2 with
      | .error text => .error (.plain text)
      | .ok key => .ok { request with plan := { plan with keys := plan.keys ++ [key] } }
  | "merge" => .ok { request with merges := true }
  | "output" =>
      if request.output.any (· != option.2) then
        .error (.plain "multiple output files specified".toList)
      else .ok { request with output := some option.2 }
  | "stable" => .ok { request with plan := { plan with stable := true } }
  | "unique" => .ok { request with plan := { plan with unique := true } }
  | "zero-terminated" => .ok { request with plan := { plan with ending := '\x00' } }
  | "field-separator" =>
      match separator option.2 with
      | .error text => .error (.plain text)
      | .ok c =>
          if plan.separator.any (· != c) then .error (.plain "incompatible tabs".toList)
          else .ok { request with plan := { plan with separator := some c } }
  | _ => .ok request

def forms : List OptionForm :=
  [.both 'b' "ignore-leading-blanks" .absent, .nameOnly "check" .optional,
    .letterOnly 'c' .absent, .letterOnly 'C' .absent, .nameOnly "compress-program" .required,
    .nameOnly "debug" .absent, .both 'd' "dictionary-order" .absent,
    .both 'f' "ignore-case" .absent, .both 'g' "general-numeric-sort" .absent,
    .both 'i' "ignore-nonprinting" .absent, .both 'k' "key" .required,
    .both 'm' "merge" .absent, .both 'M' "month-sort" .absent,
    .both 'n' "numeric-sort" .absent, .both 'h' "human-numeric-sort" .absent,
    .both 'V' "version-sort" .absent, .both 'R' "random-sort" .absent,
    .nameOnly "random-source" .required, .nameOnly "sort" .required,
    .both 'o' "output" .required, .both 'r' "reverse" .absent, .both 's' "stable" .absent,
    .nameOnly "batch-size" .required, .both 'S' "buffer-size" .required,
    .both 't' "field-separator" .required, .both 'T' "temporary-directory" .required,
    .both 'u' "unique" .absent, .both 'z' "zero-terminated" .absent,
    .nameOnly "parallel" .required]

/-- The lines of a content that end with a character, without it. -/
def linesOf (ending : Char) (content : Octets) : List Octets :=
  if ending = '\n' then (endedLines content).map withoutLineFeed
  else
    let pieces := Text.pieces ending content
    if pieces.getLast? = some [] then pieces.dropLast else pieces

def written (ending : Char) (lines : List Octets) : Octets :=
  lines.flatMap (· ++ [ending])

/-- The contents of the operands, or what is wrong with one. -/
def contents (operands : List Octets) (console : Console) :
    Except Octets (List (Octets × Octets)) × Console :=
  operands.foldl
    (fun (found, console) operand =>
      match found with
      | .error text => (.error text, console)
      | .ok contents =>
          match Console.readOperand console operand with
          | (.ok octets, console) => (.ok (contents ++ [(operand, octets)]), console)
          | (.error cause, console) =>
              (.error
                (if cause = .isDirectory then
                  "read failed: ".toList ++ Quoting.asName operand ++ ": Is a directory".toList
                else
                  "cannot read: ".toList ++ Quoting.asName operand ++ ": ".toList ++
                    cause.plainMessage), console))
    (.ok [], console)

def Request.check (request : Request) (name : Octets) (letter : Char) (path content : Octets)
    (console : Console) : Console × Nat :=
  let plan := request.plan
  let inOrder (first second : Octets) : Bool :=
    let order := plan.order first second
    order == .lt || (order == .eq && !plan.unique)
  match disorder? inOrder 1 (linesOf plan.ending content) with
  | none => (console, 0)
  | some (number, line) =>
      if letter = 'C' then (console, 1)
      else
        console.fail name (path ++ ':' :: Decimal.digits number ++ ": disorder: ".toList ++ line) 1

def Request.run (request : Request) (name : Octets) (contents : List Octets)
    (console : Console) : Console × Nat :=
  let plan := request.plan
  let atMost (first second : Octets) : Bool := (plan.order first second).isLE
  let groups := contents.map (linesOf plan.ending)
  let sorted :=
    if request.merges then groups.foldl (merge atMost) []
    else groups.flatten.mergeSort atMost
  let kept :=
    if plan.unique then distinct (fun first second => plan.order first second == .eq) sorted
    else sorted
  let output := written plan.ending kept
  match request.output with
  | none => (console.print output, 0)
  | some path =>
      match console.writeFile path output with
      | .ok console => (console, 0)
      | .error cause =>
          console.fail name ("open failed: ".toList ++ Quoting.asName path ++ ": ".toList ++
            cause.plainMessage) 2

end Sorting

def sort : Program := fun name words console =>
  let scan := OptionScan.ofWords Sorting.forms true words
  match scan.given with
  | .error text => console.failUsage name text 2
  | .ok options =>
      let start : Sorting.Request :=
        { plan := .start, checks := none, merges := false, output := none }
      match options.foldlM Sorting.Request.withOption start with
      | .error problem =>
          if problem.pointsToUsage then console.failUsage name problem.text 1
          else console.fail name problem.text 2
      | .ok request =>
          match (request.plan.general :: request.plan.keys).findSome? Sorting.conflict? with
          | some text => console.fail name text 2
          | none =>
              let operands := if scan.operands = [] then [['-']] else scan.operands
              match request.checks, operands.drop 1 with
              | some letter, extra :: _ =>
                  console.fail name ("extra operand ".toList ++ Quoting.forShell extra ++
                    " not allowed with -".toList ++ [letter]) 2
              | some letter, [] =>
                  if request.output.isSome then
                    console.fail name ("options '-".toList ++ letter :: "o' are incompatible".toList) 2
                  else
                    match Sorting.contents operands console with
                    | (.error text, console) => console.fail name text 2
                    | (.ok contents, console) =>
                        let (path, content) := contents.headD ([], [])
                        request.check name letter path content console
              | none, _ =>
                  match Sorting.contents operands console with
                  | (.error text, console) => console.fail name text 2
                  | (.ok contents, console) => request.run name (contents.map Prod.snd) console

end CuratedHistory.Host.Programs
