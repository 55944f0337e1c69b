import CuratedHistory.Host.Text.Numeral

namespace CuratedHistory.Host

/-! Numbers with a limited number of binary digits, and the decimal texts that stand for
them. Every rounding is to the nearest number that there is, and of two equally near ones
to the even one. -/

/-- The digits of a number that is held: how many binary ones there are, and the power of
two of the last one in the smallest numbers. -/
structure FloatingWidth where
  bits : Nat
  least : Int
  /-- The power of two that all numbers are below. -/
  bound : Int
  deriving DecidableEq, Repr

namespace FloatingWidth

/-- Numbers in eight bytes. -/
def double : FloatingWidth where
  bits := 53
  least := -1074
  bound := 1024

/-- Numbers in ten bytes. -/
def extended : FloatingWidth where
  bits := 64
  least := -16445
  bound := 16384

end FloatingWidth

inductive Floating where
  /-- A whole number times a power of two. -/
  | finite (negative : Bool) (mantissa : Nat) (exponent : Int)
  | infinite (negative : Bool)
  | undefined (negative : Bool)
  deriving DecidableEq, Repr

namespace Floating

def nearest (numerator denominator : Nat) : Nat :=
  let low := numerator / denominator
  let rest := numerator % denominator
  if 2 * rest > denominator ∨ (2 * rest = denominator ∧ low % 2 = 1) then low + 1 else low

/-- A quotient times a power of a base, as a quotient. -/
def scaled (base : Nat) (power : Int) (numerator denominator : Nat) : Nat × Nat :=
  if 0 ≤ power then (numerator * Nat.pow base power.toNat, denominator)
  else (numerator, denominator * Nat.pow base (-power).toNat)

def ofQuotient (width : FloatingWidth) (negative : Bool) (numerator denominator : Nat) :
    Floating :=
  if numerator = 0 ∨ denominator = 0 then .finite negative 0 0
  else
    let start : Int := (numerator.log2 : Int) - denominator.log2 - (width.bits - 1 : Nat)
    let (n, d) := scaled 2 (-start) numerator denominator
    let fitting := if n / d < Nat.pow 2 (width.bits - 1) then start - 1 else start
    let exponent := max fitting width.least
    let (n, d) := scaled 2 (-exponent) numerator denominator
    let mantissa := nearest n d
    if width.bound < exponent + mantissa.log2 + 1 then .infinite negative
    else .finite negative mantissa exponent

/-- The number that eight bytes hold. -/
def ofFloat (x : Float) : Floating :=
  let bits := x.toBits.toNat
  let negative := bits / Nat.pow 2 63 = 1
  let exponent := bits / Nat.pow 2 52 % 2048
  let fraction := bits % Nat.pow 2 52
  if exponent = 2047 then
    if fraction = 0 then .infinite negative else .undefined negative
  else if exponent = 0 then .finite negative fraction (-1074)
  else .finite negative (fraction + Nat.pow 2 52) (exponent - 1075)

def isNegative : Floating → Bool
  | .finite negative _ _ | .infinite negative | .undefined negative => negative

def quotient (mantissa : Nat) (exponent : Int) : Nat × Nat :=
  scaled 2 exponent mantissa 1

/-- Whether a number that was read from a word lies where such numbers can be told apart:
a word with a digit other than zero is too large or too small for it otherwise. -/
def represents (number : Floating) (word : Octets) : Bool :=
  let isWord := word.any fun c => "ni".toList.contains c.toLower
  match number with
  | .finite _ mantissa exponent =>
      mantissa ≠ 0 && (exponent ≠ -1074 || Nat.pow 2 52 ≤ mantissa) ||
        (word.takeWhile fun c => c != 'e' && c != 'E').all fun c => !('1' ≤ c && c ≤ '9')
  | .infinite _ => isWord
  | .undefined _ => true

/-- So many places after the point. -/
def fixed (places : Nat) (point : Bool) (mantissa : Nat) (exponent : Int) : Text :=
  let (n, d) := quotient mantissa exponent
  let whole := nearest (n * Nat.pow 10 places) d
  Decimal.digits (whole / Nat.pow 10 places) ++
    (if places = 0 then (if point then ['.'] else [])
    else '.' :: Decimal.padded places (whole % Nat.pow 10 places))

/-- The digits before and after the point, and the power of ten that they are to be
multiplied by. -/
def normal (places : Nat) (mantissa : Nat) (exponent : Int) : Text × Int :=
  if mantissa = 0 then (List.replicate (places + 1) '0', 0)
  else
    let (n, d) := quotient mantissa exponent
    let guess : Int := ((Decimal.digits n).length : Int) - (Decimal.digits d).length
    let (a, b) := scaled 10 (-guess) n d
    let power := if a < b then guess - 1 else guess
    let (a, b) := scaled 10 (places - power) n d
    let digits := Decimal.digits (nearest a b)
    if digits.length > places + 1 then (digits.dropLast, power + 1) else (digits, power)

/-- One digit before the point, and an exponent. -/
def scientific (places : Nat) (point : Bool) (mantissa : Nat) (exponent : Int) : Text :=
  let (digits, power) := normal places mantissa exponent
  digits.take 1 ++
    (if places = 0 then (if point then ['.'] else []) else '.' :: digits.drop 1) ++
    'e' :: (if power < 0 then '-' else '+') :: Decimal.padded 2 power.natAbs

/-- A fraction without zeros at its end. -/
def withoutZeros (text : Text) : Text :=
  let (number, rest) := Text.splitAtFirst (· == 'e') text
  if number.contains '.' then
    let kept := (number.reverse.dropWhile (· == '0')).reverse
    (if kept.getLast? = some '.' then kept.dropLast else kept) ++ rest
  else text

/-- So many digits that count, with an exponent where that is shorter. -/
def general (precision : Nat) (alternate : Bool) (mantissa : Nat) (exponent : Int) : Text :=
  let precision := max precision 1
  let (_, power) := normal (precision - 1) mantissa exponent
  let text :=
    if -4 ≤ power ∧ power < precision then
      fixed (precision - 1 - power).toNat alternate mantissa exponent
    else scientific (precision - 1) alternate mantissa exponent
  if alternate then text else withoutZeros text

/-- The digits of base sixteen after those that are given, without zeros at their end. -/
def hexDigits (n places : Nat) : Text :=
  let digits := (List.range places).map fun place =>
    let digit := n / Nat.pow 16 (places - 1 - place) % 16
    if digit < 10 then Decimal.digit digit else Char.ofNat (87 + digit)
  (digits.reverse.dropWhile (· == '0')).reverse

def binary (width : FloatingWidth) (mantissa : Nat) (exponent : Int) : Text :=
  let after : Nat := if width.bits = 53 then 52 else 60
  let places := after / 4
  let shift := if mantissa = 0 then 0 else width.bits - 1 - mantissa.log2
  let mantissa := mantissa * Nat.pow 2 shift
  let power : Int := if mantissa = 0 then 0 else exponent - shift + after
  let lead := hexDigits (mantissa / Nat.pow 2 after) 1
  let rest := hexDigits (mantissa % Nat.pow 2 after) places
  ['0', 'x'] ++ (if lead = [] then ['0'] else lead) ++ (if rest = [] then [] else '.' :: rest) ++
    'p' :: (if power < 0 then '-' else '+') :: Decimal.digits power.natAbs

def sizeText (width : FloatingWidth) (letter : Char) (precision : Option Nat)
    (alternate : Bool) : Floating → Text
  | .infinite _ => "inf".toList
  | .undefined _ => "nan".toList
  | .finite _ mantissa exponent =>
      match letter.toLower with
      | 'e' => scientific (precision.getD 6) alternate mantissa exponent
      | 'f' => fixed (precision.getD 6) alternate mantissa exponent
      | 'g' => general (precision.getD 6) alternate mantissa exponent
      | _ => binary width mantissa exponent

/-- The number at the start of a text, less blanks in front, and what follows it. -/
def read? (width : FloatingWidth) (text : Octets) : Option (Floating × Octets) :=
  let text := text.dropWhile Numeral.isSpace
  let (negative, start) :=
    match text with
    | '-' :: rest => (true, rest)
    | '+' :: rest => (false, rest)
    | rest => (false, rest)
  let lowered := start.map Char.toLower
  if "infinity".toList.isPrefixOf lowered then some (.infinite negative, start.drop 8)
  else if "inf".toList.isPrefixOf lowered then some (.infinite negative, start.drop 3)
  else if "nan".toList.isPrefixOf lowered then some (.undefined negative, start.drop 3)
  else
    let hex := "0x".toList.isPrefixOf lowered && Numeral.row 16 (start.drop 2) != []
    let base := if hex then 16 else 10
    let start := if hex then start.drop 2 else start
    let whole := Numeral.row base start
    let afterWhole := start.drop whole.length
    let (fraction, after) :=
      match afterWhole with
      | '.' :: rest =>
          let fraction := Numeral.row base rest
          if whole = [] ∧ fraction = [] then ([], afterWhole)
          else (fraction, rest.drop fraction.length)
      | _ => ([], afterWhole)
    if whole = [] ∧ fraction = [] then none
    else
      let isMark (c : Char) : Bool := c.toLower == if hex then 'p' else 'e'
      let (power, rest) : Int × Octets :=
        match after with
        | [] => (0, [])
        | mark :: following =>
            let (sign, digitsStart) : Int × Octets :=
              match following with
              | '-' :: rest => (-1, rest)
              | '+' :: rest => (1, rest)
              | rest => (1, rest)
            let digits := digitsStart.takeWhile Char.isDigit
            if isMark mark ∧ digits ≠ [] then
              (sign * min 20000 (Decimal.value digits), digitsStart.drop digits.length)
            else (0, after)
      let value := Numeral.value base (whole ++ fraction)
      let places : Int := fraction.length
      let (n, d) :=
        if hex then scaled 2 (power - 4 * places) value 1 else scaled 10 (power - places) value 1
      some (ofQuotient width negative n d, rest)

end Floating

end CuratedHistory.Host
