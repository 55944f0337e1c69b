import CuratedHistory.Text.Basic

namespace CuratedHistory.Decimal

/-! Decimal numbers as texts. -/

def digit (n : Nat) : Char :=
  Char.ofNat (48 + n)

/-- The digits of a number, the leading one not zero unless it is the only one. -/
def digits (n : Nat) : Text :=
  if n < 10 then [digit n] else digits (n / 10) ++ [digit (n % 10)]

/-- The digits with zeros in front up to a width. -/
def padded (width n : Nat) : Text :=
  List.replicate (width - (digits n).length) '0' ++ digits n

/-- The digits of an integer after its sign, which only a negative one has. -/
def signed : Int → Text
  | .ofNat n => digits n
  | .negSucc n => '-' :: digits (n + 1)

/-- The number that a run of decimal digits writes, the leading digits first. -/
def value (text : Text) : Nat :=
  text.foldl (fun total c => 10 * total + (c.toNat - 48)) 0

/-- A number written with one decimal digit or more and nothing else. -/
def read? (text : Text) : Option Nat :=
  if text ≠ [] ∧ text.all Char.isDigit then some (value text) else none

end CuratedHistory.Decimal
