import CuratedHistory.Text.Decimal
import CuratedHistory.Host.Text.Octets

namespace CuratedHistory.Host.Numeral

/-! Whole numbers as programs read them: in base ten, or in the base that their start
tells, and no larger than sixty-four bits hold. -/

def digitValue? (c : Char) : Option Nat :=
  if c.isDigit then some (c.toNat - 48)
  else if 'a' ≤ c ∧ c ≤ 'f' then some (c.toNat - 87)
  else if 'A' ≤ c ∧ c ≤ 'F' then some (c.toNat - 55)
  else none

/-- The digits of a base at the start. -/
def row (base : Nat) (octets : Octets) : Octets :=
  octets.takeWhile fun c => (digitValue? c).any (· < base)

def value (base : Nat) (digits : Octets) : Nat :=
  digits.foldl (fun total c => base * total + (digitValue? c).getD 0) 0

/-- The number at the start, in base ten, after a zero eight, after zero and an x
sixteen; and what follows it. -/
def read (octets : Octets) : Nat × Octets :=
  match octets with
  | '0' :: x :: rest =>
      if (x = 'x' ∨ x = 'X') ∧ row 16 rest ≠ [] then
        (value 16 (row 16 rest), rest.drop (row 16 rest).length)
      else
        let digits := row 8 octets
        (value 8 digits, octets.drop digits.length)
  | octets =>
      let digits := row 10 octets
      (value 10 digits, octets.drop digits.length)

def greatest : Int := (1 <<< 63) - 1

def least : Int := -(1 <<< 63)

/-- A number brought to the nearest one that sixty-four bits hold. -/
def clamped (n : Int) : Int :=
  max least (min greatest n)

def isSpace (c : Char) : Bool :=
  c = ' ' || ('\t' ≤ c && c ≤ '\r')

/-- The number that all of some octets write, in one base or by its start, with blanks
around it and a sign. -/
def ofOctets? (decimal : Bool) (octets : Octets) : Option Int :=
  let (negative, start) :=
    match octets.dropWhile isSpace with
    | '-' :: rest => (true, rest)
    | '+' :: rest => (false, rest)
    | rest => (false, rest)
  let (n, after) :=
    if decimal then (value 10 (row 10 start), start.drop (row 10 start).length) else read start
  if after.length = start.length ∨ !(after.all isSpace) then none
  else some (clamped (if negative then -(n : Int) else n))

end CuratedHistory.Host.Numeral
