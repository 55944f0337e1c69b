import CuratedHistory.Host.Programs.Options
import CuratedHistory.Host.Programs.Quoting
import CuratedHistory.Host.Text.Floating

namespace CuratedHistory.Host.Programs

/-! Printing words, with backslashes for what cannot be written and layouts with
directives. -/

/-- The backslashes that are known: those of shells, or more. -/
inductive EscapeStyle where
  | plain
  | extended
  deriving DecidableEq, Repr

namespace Escapes

def isOctal (c : Char) : Bool :=
  '0' ≤ c && c ≤ '7'

/-- The octet with a number, less what does not fit. -/
def octet (n : Nat) : Char :=
  Char.ofNat (n % 256)

def octalRow (most : Nat) (octets : Octets) : Octets :=
  (octets.take most).takeWhile isOctal

def letter? (c : Char) : Option Char :=
  match c with
  | '\\' => some '\\'
  | 'a' => some '\x07'
  | 'b' => some '\x08'
  | 'f' => some '\x0c'
  | 'n' => some '\n'
  | 'r' => some '\r'
  | 't' => some '\t'
  | 'v' => some '\x0b'
  | 'e' => some '\x1b'
  | _ => none

/-- What a backslash and the octets after it stand for, and how many of them it takes. -/
def after (style : EscapeStyle) (octets : Octets) : Octets × Nat :=
  match octets with
  | [] => (['\\'], 0)
  | c :: rest =>
      if isOctal c then
        let digits := octalRow 3 octets
        ([octet (Numeral.value 8 digits)], digits.length)
      else if style = .extended ∧ c = 'x' ∧ Numeral.row 16 (rest.take 2) ≠ [] then
        let digits := Numeral.row 16 (rest.take 2)
        ([octet (Numeral.value 16 digits)], digits.length + 1)
      else
        match letter? c with
        | some found => ([found], 1)
        | none => (['\\'], 0)

/-- A text with its backslashes resolved, and whether one of them ends all printing. A
zero may stand in front of the digits of an octet. The number bounds the octets. -/
def resolve (style : EscapeStyle) : Nat → Octets → Octets × Bool
  | 0, _ => ([], false)
  | _ + 1, [] => ([], false)
  | n + 1, '\\' :: rest =>
      match rest with
      | 'c' :: _ => ([], true)
      | '0' :: digit :: _ =>
          let counted := if isOctal digit then rest.drop 1 else rest
          let (found, taken) := after style counted
          let (others, ended) := resolve style n (counted.drop taken)
          (found ++ others, ended)
      | _ =>
          let (found, taken) := after style rest
          let (others, ended) := resolve style n (rest.drop taken)
          (found ++ others, ended)
  | n + 1, c :: rest =>
      let (others, ended) := resolve style n rest
      (c :: others, ended)

def ofText (style : EscapeStyle) (text : Octets) : Octets × Bool :=
  resolve style (text.length + 1) text

/-- How many octets name a character after a backslash. -/
def characterLength (octets : Octets) : Nat :=
  if octets.head? = some 'u' then 5 else 9

/-- The character whose number stands after a backslash and a letter, or the same form
again where it is none of seven bits. -/
def character? (octets : Octets) : Option Octets :=
  let digits := (octets.take (characterLength octets)).tail
  if digits.length + 1 = characterLength octets ∧ (Numeral.row 16 digits).length = digits.length then
    let n := Numeral.value 16 digits
    if n < 128 then some [Char.ofNat n]
    else some ('\\' :: octets.take 1 ++ digits.map Char.toUpper)
  else none

end Escapes

/-- Words with blanks between them and a line feed, up to what ends printing. -/
def plainEcho : List Octets → Octets
  | [] => ['\n']
  | [word] =>
      let (text, ended) := Escapes.ofText .plain word
      if ended then text else text ++ ['\n']
  | word :: rest =>
      let (text, ended) := Escapes.ofText .plain word
      if ended then text else text ++ ' ' :: plainEcho rest

/-- What the plain form prints; a first word can keep the line feed away. -/
def echoPlain (words : List Octets) : Octets :=
  match words with
  | ['-', 'n'] :: rest =>
      if rest.isEmpty then [] else
        let text := plainEcho rest
        let ended := rest.any fun word => (Escapes.ofText .plain word).2
        if ended then text else text.dropLast
  | words => plainEcho words

def echoExtended (words : List Octets) : Octets :=
  let isOption (word : Octets) : Bool :=
    match word with
    | '-' :: c :: rest => (c :: rest).all ("neE".toList.contains ·)
    | _ => false
  let letters := (words.takeWhile isOption).flatten
  let words := words.dropWhile isOption
  let resolves := ((letters.filter fun c => c = 'e' || c = 'E').getLast?) = some 'e'
  let ending : Octets := if letters.contains 'n' then [] else ['\n']
  let text := Text.join [' '] words
  if resolves then
    let (resolved, ended) := Escapes.ofText .extended text
    if ended then resolved else resolved ++ ending
  else text ++ ending

/-- The width and the flags of a directive. -/
structure Directive where
  flags : Octets
  width : Nat
  precision : Option Nat

namespace Directive

def pad (directive : Directive) (text : Octets) : Octets :=
  let blanks := List.replicate (directive.width - text.length) ' '
  if directive.flags.contains '-' then text ++ blanks else blanks ++ text

def ofText (directive : Directive) (text : Octets) : Octets :=
  directive.pad (match directive.precision with
    | some n => text.take n
    | none => text)

/-- Digits after a sign, with zeros up to the precision or the width. -/
def ofDigits (directive : Directive) (sign digits : Octets) : Octets :=
  let least :=
    match directive.precision with
    | some n => n
    | none =>
        if directive.flags.contains '0' ∧ !(directive.flags.contains '-') then
          directive.width - sign.length
        else 0
  directive.pad (sign ++ List.replicate (least - digits.length) '0' ++ digits)

def signed (directive : Directive) (n : Int) : Octets :=
  let sign : Octets :=
    if n < 0 then ['-']
    else if directive.flags.contains '+' then ['+']
    else if directive.flags.contains ' ' then [' ']
    else []
  let digits := if n = 0 ∧ directive.precision = some 0 then [] else Decimal.digits n.natAbs
  directive.ofDigits sign digits

/-- The digits of a number in a base up to sixteen. -/
def digitsOf (base : Nat) (capital : Bool) : Nat → Nat → Octets
  | 0, _ => []
  | room + 1, n =>
      let digit := n % base
      let c :=
        if digit < 10 then Char.ofNat (48 + digit)
        else Char.ofNat ((if capital then 55 else 87) + digit)
      if n < base then [c] else digitsOf base capital room (n / base) ++ [c]

def unsigned (directive : Directive) (letter : Char) (n : Nat) : Octets :=
  let base := if letter = 'o' then 8 else if letter = 'u' then 10 else 16
  let digits := digitsOf base (letter = 'X') 64 n
  let start : Octets :=
    if directive.flags.contains '#' ∧ n ≠ 0 then
      (if letter = 'x' then ['0', 'x'] else if letter = 'X' then ['0', 'X']
      else if letter = 'o' then ['0'] else [])
    else []
  directive.ofDigits start
    (if n = 0 ∧ directive.precision = some 0 then [] else digits)

/-- A number with a point, an exponent or both, as a letter asks for it. -/
def floating (directive : Directive) (width : FloatingWidth) (letter : Char)
    (number : Floating) : Octets :=
  let text := Floating.sizeText width letter directive.precision
    (directive.flags.contains '#') number
  let text := if letter.isUpper then text.map Char.toUpper else text
  let sign : Octets :=
    if number.isNegative then ['-']
    else if directive.flags.contains '+' then ['+']
    else if directive.flags.contains ' ' then [' ']
    else []
  match number with
  | .finite _ _ _ =>
      let (start, digits) : Octets × Octets :=
        if letter.toLower = 'a' then (sign ++ text.take 2, text.drop 2) else (sign, text)
      { directive with precision := none }.ofDigits start digits
  | _ => directive.pad (sign ++ text)

end Directive

/-- What a layout prints, and what goes wrong. -/
structure Printed where
  output : Octets
  warnings : List Octets
  /-- What ends the printing for good. -/
  failure : Option Octets
  /-- Whether a backslash has ended the printing. -/
  ended : Bool
  arguments : List Octets

namespace Printed

def start (arguments : List Octets) : Printed where
  output := []
  warnings := []
  failure := none
  ended := false
  arguments

def add (printed : Printed) (octets : Octets) : Printed :=
  { printed with output := printed.output ++ octets }

/-- The next argument, and what is left of them. -/
def take? (printed : Printed) : Option Octets × Printed :=
  (printed.arguments.head?, { printed with arguments := printed.arguments.tail })

def warn (printed : Printed) (word : Octets) (text : String) : Printed :=
  { printed with warnings := printed.warnings ++ [word ++ text.toList] }

/-- What is said of a word that is no number, or only in part. -/
def complaint (style : EscapeStyle) (inPart : Bool) : String :=
  match style, inPart with
  | .plain, false => ": expected numeric value"
  | .plain, true => ": not completely converted"
  | .extended, false => ": expected a numeric value"
  | .extended, true => ": value not completely converted"

/-- Says what is wrong with a word that has been read as a number up to a rest. -/
def judge (printed : Printed) (style : EscapeStyle) (word rest : Octets)
    (isNumber fits : Bool) : Printed :=
  let shown := if style = .plain then word else Quoting.between word
  let outOfRange := printed.warn shown ": Numerical result out of range"
  if !fits ∧ style = .extended then outOfRange
  else if !isNumber ∧ word ≠ [] then printed.warn shown (complaint style false)
  else if rest ≠ [] then printed.warn shown (complaint style true)
  else if !fits then outOfRange
  else printed

/-- The number at the start of a word as far as it goes; a quote asks for the number of
the next octet. -/
def number (printed : Printed) (style : EscapeStyle) (isSigned : Bool) : Int × Printed :=
  match printed.take? with
  | (none, printed) => (0, printed)
  | (some word, printed) =>
      match word with
      | '"' :: c :: _ | '\'' :: c :: _ => ((c.toNat : Int), printed)
      | _ =>
          let (negative, start) :=
            match word.dropWhile Numeral.isSpace with
            | '-' :: rest => (true, rest)
            | '+' :: rest => (false, rest)
            | rest => (false, rest)
          let (n, rest) := Numeral.read start
          let value : Int := if negative then -(n : Int) else n
          let isNumber := rest.length ≠ start.length
          let most : Int := (1 <<< 64 : Nat) - 1
          let fitted :=
            if isSigned then Numeral.clamped value else if most < n then most else value
          (if isNumber then fitted else 0,
            printed.judge style word rest isNumber (fitted == value))

def widthOf : EscapeStyle → FloatingWidth
  | .plain => .double
  | .extended => .extended

def floating (printed : Printed) (style : EscapeStyle) : Floating × Printed :=
  let zero : Floating := .finite false 0 0
  match printed.take? with
  | (none, printed) => (zero, printed)
  | (some word, printed) =>
      match word with
      | '"' :: c :: _ | '\'' :: c :: _ => (.finite false c.toNat 0, printed)
      | _ =>
          match Floating.read? (widthOf style) word with
          | none => (zero, printed.judge style word word false true)
          | some (number, rest) =>
              (number, printed.judge style word rest true (number.represents word))

/-- The number of a width or a precision at the start of a layout. -/
def size (printed : Printed) (style : EscapeStyle) (layout : Octets) :
    Int × Octets × Printed :=
  match layout with
  | '*' :: rest =>
      let (n, printed) := printed.number style true
      (n, rest, printed)
  | layout =>
      let digits := layout.takeWhile Char.isDigit
      (Decimal.value digits, layout.dropWhile Char.isDigit, printed)

/-- The letters of sizes, which mean nothing here. -/
def isSizeLetter (c : Char) : Bool :=
  "lLhjtz".toList.contains c

/-- Prints what a directive after its percent sign asks for, and gives what follows. -/
def directive (style : EscapeStyle) (layout : Octets) (printed : Printed) :
    Octets × Printed :=
  let isFlag (c : Char) : Bool := "#-+ 0".toList.contains c
  let flags := layout.takeWhile isFlag
  let (width, rest, printed) := printed.size style (layout.dropWhile isFlag)
  let flags := if width < 0 then '-' :: flags else flags
  let (precision, rest, printed) :=
    match rest with
    | '.' :: rest =>
        let (n, rest, printed) := printed.size style rest
        (if n < 0 then none else some n.toNat, rest, printed)
    | rest => (none, rest, printed)
  let form : Directive := { flags, width := width.natAbs, precision }
  let rest := if style = .extended then rest.dropWhile isSizeLetter else rest
  match rest with
  | [] => ([], { printed with failure := some "missing format character".toList })
  | letter :: after =>
      match letter with
      | 's' =>
          let (word, printed) := printed.take?
          (after, printed.add (form.ofText (word.getD [])))
      | 'q' =>
          let (word, printed) := printed.take?
          if style = .extended ∧ layout = letter :: after then
            (after, printed.add (Quoting.whereNeeded (word.getD [])))
          else unknown after printed
      | 'b' =>
          let (word, printed) := printed.take?
          let (text, ended) := Escapes.ofText style (word.getD [])
          (after, { printed.add (form.ofText text) with ended })
      | 'c' =>
          let (word, printed) := printed.take?
          (after, printed.add (form.pad [(word.getD []).headD '\x00']))
      | 'd' | 'i' =>
          let (n, printed) := printed.number style true
          (after, printed.add (form.signed n))
      | 'o' | 'u' | 'x' | 'X' =>
          let (n, printed) := printed.number style false
          (after, printed.add (form.unsigned letter (n % (1 <<< 64 : Nat)).toNat))
      | 'a' | 'A' | 'e' | 'E' | 'f' | 'F' | 'g' | 'G' =>
          let (number, printed) := printed.floating style
          (after, printed.add (form.floating (widthOf style) letter number))
      | _ => unknown after printed
where
  unknown (after : Octets) (printed : Printed) : Octets × Printed :=
    let directive := '%' :: layout.take (layout.length - after.length)
    (after, { printed with failure := some (match style with
      | .plain => directive ++ ": invalid directive".toList
      | .extended => directive ++ ": invalid conversion specification".toList) })

/-- Prints a layout once. The number bounds it. -/
def once (style : EscapeStyle) : Nat → Octets → Printed → Printed
  | 0, _, printed => printed
  | n + 1, layout, printed =>
      if printed.ended ∨ printed.failure.isSome then printed
      else
        match layout with
        | [] => printed
        | '\\' :: rest =>
            if style = .extended ∧ rest.head? = some 'c' then { printed with ended := true }
            else if style = .extended ∧ (rest.head? = some 'u' ∨ rest.head? = some 'U') then
              match Escapes.character? rest with
              | some found => once style n (rest.drop (Escapes.characterLength rest)) (printed.add found)
              | none =>
                  { printed with
                    failure := some "missing hexadecimal number in escape".toList }
            else if style = .extended ∧ rest.head? = some 'x' ∧
                Numeral.row 16 (rest.tail.take 1) = [] then
              { printed with failure := some "missing hexadecimal number in escape".toList }
            else if style = .extended ∧ rest.head? = some '"' then
              once style n rest.tail (printed.add ['"'])
            else
              let (found, taken) := Escapes.after style rest
              if style = .extended ∧ taken = 0 then
                once style n rest.tail (printed.add ('\\' :: rest.take 1))
              else once style n (rest.drop taken) (printed.add found)
        | '%' :: '%' :: rest => once style n rest (printed.add ['%'])
        | '%' :: rest =>
            let (after, printed) := directive style rest printed
            once style n after printed
        | c :: rest => once style n rest (printed.add [c])

/-- Prints a layout, and again as long as it uses up arguments. The number bounds the
arguments. -/
def again (style : EscapeStyle) (layout : Octets) : Nat → Printed → Printed
  | 0, printed => printed
  | n + 1, printed =>
      let after := once style (layout.length + 1) layout printed
      if after.ended ∨ after.failure.isSome ∨ after.arguments = [] ∨
          after.arguments.length = printed.arguments.length then after
      else again style layout n after

def ofLayout (style : EscapeStyle) (layout : Octets) (arguments : List Octets) : Printed :=
  again style layout (arguments.length + 1) (start arguments)

end Printed

def echo : Program := fun _ words console =>
  (console.print (echoExtended words), 0)

def printf : Program := fun name words console =>
  match words with
  | [] => console.failUsage name "missing operand".toList 1
  | ['-', '-'] :: layout :: arguments | layout :: arguments =>
      let printed := Printed.ofLayout .extended layout arguments
      let console := printed.warnings.foldl
        (fun console text => console.complain (name ++ ": ".toList ++ text)) console
      let console := console.print printed.output
      match printed.failure, printed.arguments with
      | some text, _ => console.fail name text 1
      | none, extra :: _ =>
          let console :=
            if printed.ended then console
            else
              console.complain (name ++
                ": warning: ignoring excess arguments, starting with ".toList ++
                Quoting.between extra)
          (console, if printed.warnings = [] then 0 else 1)
      | none, [] => (console, if printed.warnings = [] then 0 else 1)

end CuratedHistory.Host.Programs
