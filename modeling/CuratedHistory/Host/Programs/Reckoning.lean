import CuratedHistory.Host.Programs.Options
import CuratedHistory.Host.Programs.Quoting
import CuratedHistory.Host.Text.Numeral
import CuratedHistory.Host.Text.RegexForm

namespace CuratedHistory.Host.Programs

/-! Numbers in a row, and the value of an expression of words. -/

namespace Series

/-- Numbers from one on by steps up to another one. The first number bounds them. -/
def upTo (step last : Int) : Nat → Int → List Int
  | 0, _ => []
  | n + 1, first =>
      if (0 < step ∧ last < first) ∨ (step < 0 ∧ first < last) then []
      else first :: upTo step last n (first + step)

def padded (width : Nat) (n : Int) : Octets :=
  if n < 0 then '-' :: Decimal.padded (width - 1) n.natAbs else Decimal.padded width n.natAbs

/-- Options stand before the first word that is a number. -/
def optionWords (words : List Octets) : List Octets × List Octets :=
  let isNumber (word : Octets) : Bool := (Numeral.ofOctets? true word).isSome
  (words.takeWhile (!isNumber ·), words.dropWhile (!isNumber ·))

end Series

def seq : Program := fun name words console =>
  let (start, numbers) := Series.optionWords words
  let scan := OptionScan.ofWords
    [.both 's' "separator" .required, .both 'w' "equal-width" .absent,
      .both 'f' "format" .required]
    false start
  match scan.given with
  | .error text => console.failUsage name text 1
  | .ok options =>
      let operands := scan.operands ++ numbers
      match operands.find? fun word => (Numeral.ofOctets? true word).isNone with
      | some word =>
          console.failUsage name ("invalid floating point argument: ".toList ++
            Quoting.between word) 1
      | none =>
          let values := operands.map fun word => (Numeral.ofOctets? true word).getD 0
          let run (first step last : Int) : Console × Nat :=
            if step = 0 then
              console.failUsage name ("invalid Zero increment value: ".toList ++
                Quoting.between (operands.getD 1 [])) 1
            else
              let found := Series.upTo step last ((last - first).natAbs / step.natAbs + 2) first
              let width := if options.any (·.1 == "equal-width") then
                  (found.map fun n => (Decimal.signed n).length).foldl max 0
                else 0
              let separator := ((options.find? (·.1 == "separator")).map Prod.snd).getD ['\n']
              if found = [] then (console, 0)
              else
                (console.print (Text.join separator (found.map (Series.padded width)) ++ ['\n']),
                  0)
          match values with
          | [] => console.failUsage name "missing operand".toList 1
          | [last] => run 1 1 last
          | [first, last] => run first 1 last
          | [first, step, last] => run first step last
          | _ => console.failUsage name ("extra operand ".toList ++
              Quoting.between (operands.getD 3 [])) 1

namespace Reckoning

/-- Why an expression has no value. -/
inductive Fault where
  | missingAfter (word : Octets)
  | unexpected (word : Octets)
  | unexpectedClose
  | noInteger
  | byZero
  | regex (fault : RegexFault)

def Fault.message : Fault → Octets
  | .missingAfter word => "syntax error: missing argument after ".toList ++ Quoting.between word
  | .unexpected word => "syntax error: unexpected argument ".toList ++ Quoting.between word
  | .unexpectedClose => "syntax error: unexpected ')'".toList
  | .noInteger => "non-integer argument".toList
  | .byZero => "division by zero".toList
  | .regex fault => fault.message.toList

/-- The words that are left, and the last one that was used. -/
structure Words where
  rest : List Octets
  last : Octets

abbrev Reading := StateT Words (Except Fault)

def peek? : Reading (Option Octets) := fun words => .ok (words.rest.head?, words)

def take : Reading Octets := fun words =>
  match words.rest with
  | [] => .error (.missingAfter words.last)
  | word :: rest => .ok (word, { rest, last := word })

def integer? (word : Octets) : Option Int :=
  let digits := if word.head? = some '-' then word.tail else word
  if digits ≠ [] ∧ digits.all Char.isDigit then
    some (if word.head? = some '-' then -(Decimal.value digits : Int) else Decimal.value digits)
  else none

def integer (word : Octets) : Reading Int :=
  match integer? word with
  | some n => return n
  | none => throw .noInteger

def isNull (word : Octets) : Bool :=
  word = [] || integer? word == some 0

/-- What an expression matches at the start of a text: its first group, or how many
octets it takes. -/
def matched (text pattern : Octets) : Reading Octets :=
  match RegexForm.read { form := .basic, anyCase := false, strict := true, byLine := false }
      pattern with
  | .error fault => throw (.regex fault)
  | .ok (regex, groups) =>
      match regex.longestAt? ⟨[], Octets.toBytes text, []⟩ with
      | none => return if groups = 0 then ['0'] else []
      | some reached =>
          return if groups = 0 then Decimal.digits (text.length - reached.after.length)
            else Octets.ofBytes ((reached.groups.lookup 1).getD [])

/-- The levels of signs, the weakest first. -/
def levels : List (List String) :=
  [["|"], ["&"], ["<", "<=", "=", "==", "!=", ">=", ">"], ["+", "-"], ["*", "/", "%"], [":"]]

def order (first second : Octets) : Ordering :=
  match integer? first, integer? second with
  | some a, some b => compare a b
  | _, _ =>
      if first = second then .eq else if Text.atMost first second then .lt else .gt

def truth (holds : Bool) : Octets :=
  if holds then ['1'] else ['0']

def combine (sign : Octets) (first second : Octets) : Reading Octets := do
  match String.ofList sign with
  | "|" => return if !isNull first then first else if isNull second then ['0'] else second
  | "&" => return if isNull first || isNull second then ['0'] else first
  | "<" => return truth (order first second == .lt)
  | "<=" => return truth (order first second != .gt)
  | "=" | "==" => return truth (order first second == .eq)
  | "!=" => return truth (order first second != .eq)
  | ">=" => return truth (order first second != .lt)
  | ">" => return truth (order first second == .gt)
  | ":" => matched first second
  | sign =>
      let a ← integer first
      let b ← integer second
      match sign with
      | "+" => return Decimal.signed (a + b)
      | "-" => return Decimal.signed (a - b)
      | "*" => return Decimal.signed (a * b)
      | _ =>
          if b = 0 then throw .byZero
          else if sign = "/" then return Decimal.signed (Int.tdiv a b)
          else return Decimal.signed (Int.tmod a b)

mutual

/-- The value of signs of a level and stronger ones. The number bounds the steps. -/
def level : Nat → List (List String) → Reading Octets
  | 0, _ => throw .noInteger
  | n + 1, levels =>
      match levels with
      | [] => operand n
      | signs :: stronger => do
          let first ← level n stronger
          more n signs stronger first

/-- Combines a value with those after signs of a level. -/
def more : Nat → List String → List (List String) → Octets → Reading Octets
  | 0, _, _, first => return first
  | n + 1, signs, stronger, first => do
      match ← peek? with
      | some sign =>
          if signs.any (·.toList == sign) then
            let _ ← take
            let second ← level n stronger
            more n signs stronger (← combine sign first second)
          else return first
      | none => return first

def operand : Nat → Reading Octets
  | 0 => throw .noInteger
  | n + 1 => do
      let word ← take
      match String.ofList word with
      | "(" =>
          let value ← level n levels
          match ← peek? with
          | some [')'] =>
              let _ ← take
              return value
          | some word => throw (.unexpected word)
          | none => throw (.missingAfter (← get).last)
      | ")" => throw .unexpectedClose
      | "+" => take
      | "length" => return Decimal.digits (← operand n).length
      | "match" =>
          let text ← operand n
          matched text (← operand n)
      | "index" =>
          let text ← operand n
          let octets ← operand n
          return Decimal.digits (((text.findIdx? octets.contains).map (· + 1)).getD 0)
      | "substr" =>
          let text ← operand n
          let start ← operand n
          let count ← operand n
          match integer? start, integer? count with
          | some first, some size =>
              return if first ≤ 0 ∨ size ≤ 0 then []
                else (text.drop (first.toNat - 1)).take size.toNat
          | _, _ => return []
      | _ => return word

end

end Reckoning

/-- Prints the value of an expression of words. The status tells whether it is zero or
empty. -/
def expr : Program := fun name words console =>
  let words := if words.head? = some ['-', '-'] then words.tail else words
  if words = [] then console.failUsage name "missing operand".toList 2
  else
    match (Reckoning.level (20 * words.length + 20) Reckoning.levels).run
        { rest := words, last := [] } with
    | .error fault => console.fail name fault.message 2
    | .ok (value, left) =>
        match left.rest with
        | [] => (console.print (value ++ ['\n']), if Reckoning.isNull value then 1 else 0)
        | word :: _ =>
            console.fail name (if word = [')'] then Reckoning.Fault.unexpectedClose.message
              else (Reckoning.Fault.unexpected word).message) 2

end CuratedHistory.Host.Programs
