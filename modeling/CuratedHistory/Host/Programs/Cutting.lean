import CuratedHistory.Host.Programs.Options
import CuratedHistory.Host.Programs.Quoting

namespace CuratedHistory.Host.Programs

/-! Cutting bytes or fields out of lines. -/

/-- What the numbers of a list count. -/
inductive CutUnit where
  | byte
  | field
  deriving DecidableEq, Repr

/-- Numbers from a first to a last one, or without an end. -/
structure CutRange where
  first : Nat
  last : Option Nat
  deriving DecidableEq, Repr

/-- What is wrong with a list of ranges. -/
inductive CutListError where
  | twoDashes
  | zero
  | noEnds
  | decreasing
  | tooLarge (digits : Octets)
  | notNumber (rest : Octets)
  deriving DecidableEq, Repr

namespace CutListError

def message (counted : CutUnit) : CutListError → Octets
  | .twoDashes =>
      match counted with
      | .byte => "invalid byte or character range".toList
      | .field => "invalid field range".toList
  | .zero =>
      match counted with
      | .byte => "byte/character positions are numbered from 1".toList
      | .field => "fields are numbered from 1".toList
  | .noEnds => "invalid range with no endpoint: -".toList
  | .decreasing => "invalid decreasing range".toList
  | .tooLarge digits =>
      match counted with
      | .byte => "byte/character offset ".toList ++ Quoting.between digits ++ " is too large".toList
      | .field => "field number ".toList ++ Quoting.between digits ++ " is too large".toList
  | .notNumber rest =>
      match counted with
      | .byte => "invalid byte/character position ".toList ++ Quoting.between rest
      | .field => "invalid field value ".toList ++ Quoting.between rest

end CutListError

namespace CutRange

def largest : Nat := (1 <<< 64) - 1

/-- The number at the start of a word, which may have no digits. -/
def number? (word : Octets) : Except CutListError (Option Nat × Octets) :=
  let digits := word.takeWhile Char.isDigit
  let rest := word.dropWhile Char.isDigit
  if digits = [] then .ok (none, rest)
  else if largest ≤ Decimal.value digits then .error (.tooLarge digits)
  else .ok (some (Decimal.value digits), rest)

/-- The range at the start of a word, with what follows it. -/
def read (word : Octets) : Except CutListError (CutRange × Octets) :=
  match number? word with
  | .error error => .error error
  | .ok (first, '-' :: rest) =>
      if first = some 0 then .error .zero
      else
        match number? rest with
        | .error error => .error error
        | .ok (_, '-' :: _) => .error .twoDashes
        | .ok (last, rest) =>
            if !rest.isEmpty && !(rest.head?.any (" \t,".toList.contains ·)) then
              .error (.notNumber rest)
            else if first = none ∧ last = none then .error .noEnds
            else if last.any (· < first.getD 1) then .error .decreasing
            else .ok ({ first := first.getD 1, last }, rest)
  | .ok (only, rest) =>
      if !rest.isEmpty && !(rest.head?.any (" \t,".toList.contains ·)) then
        .error (.notNumber rest)
      else if only.getD 0 = 0 then .error .zero
      else .ok ({ first := only.getD 0, last := only }, rest)

/-- The ranges of a list with commas or blanks between them. The number bounds them. -/
def readAll : Nat → Octets → Except CutListError (List CutRange)
  | 0, _ => .ok []
  | n + 1, word =>
      match read word with
      | .error error => .error error
      | .ok (range, []) => .ok [range]
      | .ok (range, _ :: rest) => (readAll n rest).map (range :: ·)

def ofList (word : Octets) : Except CutListError (List CutRange) :=
  readAll (word.length + 1) word

def holds (range : CutRange) (n : Nat) : Bool :=
  range.first ≤ n && range.last.all (n ≤ ·)

end CutRange

structure Cut where
  counted : CutUnit
  ranges : List CutRange
  complements : Bool
  delimiter : Char
  outputDelimiter : Option Octets
  onlyDelimited : Bool
  lineEnd : Char

namespace Cut

def selects (cut : Cut) (n : Nat) : Bool :=
  cut.ranges.any (·.holds n) != cut.complements

/-- Whether a row of selected numbers starts at a number: ranges that only touch stay
two rows. -/
def startsRow (cut : Cut) (n : Nat) : Bool :=
  if cut.complements then !cut.selects (n - 1) || n = 1
  else
    cut.ranges.any (·.first = n) &&
      !(cut.ranges.any fun range => range.first < n && range.last.all (n ≤ ·))

/-- The bytes selected from a line, given how many bytes precede and whether one of
them is selected. -/
def bytesOf (cut : Cut) : Nat → Bool → Octets → Octets
  | _, _, [] => []
  | before, started, c :: rest =>
      let n := before + 1
      if cut.selects n then
        let separator :=
          match cut.outputDelimiter with
          | some delimiter => if started && cut.startsRow n then delimiter else []
          | none => []
        separator ++ c :: bytesOf cut n true rest
      else bytesOf cut n started rest

/-- The line that a line becomes, if there is one. -/
def line? (cut : Cut) (line : Octets) : Option Octets :=
  match cut.counted with
  | .byte => some (cut.bytesOf 0 false line)
  | .field =>
      match Text.pieces cut.delimiter line with
      | [_] => if cut.onlyDelimited then none else some line
      | fields =>
          let selected := (fields.zipIdx 1).filter fun field => cut.selects field.2
          some (Text.join (cut.outputDelimiter.getD [cut.delimiter]) (selected.map Prod.fst))

/-- The lines of a content, or all of it as one when lines are the fields. -/
def contentLines (cut : Cut) (content : Octets) : List Octets :=
  if content = [] then []
  else
    let body := if content.getLast? = some cut.lineEnd then content.dropLast else content
    if cut.counted = .field ∧ cut.delimiter = cut.lineEnd then [body]
    else Text.pieces cut.lineEnd body

def content (cut : Cut) (content : Octets) : Octets :=
  (cut.contentLines content).flatMap fun line =>
    match cut.line? line with
    | some selected => selected ++ [cut.lineEnd]
    | none => []

def forms : List OptionForm :=
  [.both 'b' "bytes" .required, .both 'c' "characters" .required, .both 'd' "delimiter" .required,
    .both 'f' "fields" .required, .letterOnly 'n' .absent, .both 's' "only-delimited" .absent,
    .both 'z' "zero-terminated" .absent, .nameOnly "complement" .absent,
    .nameOnly "output-delimiter" .required]

/-- What the options say so far. -/
structure Request where
  list : Option (CutUnit × Octets)
  delimiter : Option Char
  outputDelimiter : Option Octets
  onlyDelimited : Bool
  complements : Bool
  lineEnd : Char

/-- The word of a delimiter; an empty one stands for the byte zero. -/
def orZero (word : Octets) : Octets :=
  if word = [] then ['\x00'] else word

def Request.withList (request : Request) (counted : CutUnit) (list : Octets) :
    Except Octets Request :=
  match request.list with
  | some _ => .error "only one list may be specified".toList
  | none => .ok { request with list := some (counted, list) }

def Request.withEvent (request : Request) (event : OptionEvent) : Except Octets Request :=
  match event with
  | .problem text => .error text
  | .given key value =>
      match key with
      | "bytes" | "characters" => request.withList .byte value
      | "fields" => request.withList .field value
      | "delimiter" =>
          match orZero value with
          | [c] => .ok { request with delimiter := some c }
          | _ => .error "the delimiter must be a single character".toList
      | "output-delimiter" => .ok { request with outputDelimiter := some (orZero value) }
      | "only-delimited" => .ok { request with onlyDelimited := true }
      | "zero-terminated" => .ok { request with lineEnd := '\x00' }
      | "complement" => .ok { request with complements := true }
      | _ => .ok request

def ofEvents (events : List OptionEvent) : Except Octets Cut :=
  let start : Request :=
    { list := none, delimiter := none, outputDelimiter := none, onlyDelimited := false
      complements := false, lineEnd := '\n' }
  match events.foldlM Request.withEvent start with
  | .error text => .error text
  | .ok request =>
      match request.list with
      | none => .error "you must specify a list of bytes, characters, or fields".toList
      | some (counted, list) =>
          if counted = .byte ∧ request.delimiter.isSome then
            .error
              "an input delimiter may be specified only when operating on fields".toList
          else if counted = .byte ∧ request.onlyDelimited then
            .error ("suppressing non-delimited lines makes sense\n\tonly when " ++
              "operating on fields").toList
          else
            match CutRange.ofList list with
            | .error error => .error (error.message counted)
            | .ok ranges =>
                .ok {
                  counted
                  ranges
                  complements := request.complements
                  delimiter := request.delimiter.getD '\t'
                  outputDelimiter := request.outputDelimiter
                  onlyDelimited := request.onlyDelimited
                  lineEnd := request.lineEnd }

end Cut

def cut : Program := fun name words console =>
  let scan := OptionScan.ofWords Cut.forms true words
  match Cut.ofEvents scan.events with
  | .error text => console.failUsage name text 1
  | .ok cut =>
      let operands := if scan.operands = [] then [['-']] else scan.operands
      let (output, console, status) := operands.foldl
        (fun (output, console, status) operand =>
          match Console.readOperand console operand with
          | (.ok octets, console) => (output ++ cut.content octets, console, status)
          | (.error cause, console) =>
              (output, console.complain (name ++ ": ".toList ++ Quoting.asName operand ++
                ": ".toList ++ cause.plainMessage), 1))
        (([] : Octets), console, 0)
      (console.print output, status)

end CuratedHistory.Host.Programs
