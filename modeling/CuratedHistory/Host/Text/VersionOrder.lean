import CuratedHistory.Text.Basic

namespace CuratedHistory.Host.VersionOrder

/-! The order of names with numbers in them: rows of digits are compared as numbers,
letters come before other characters, and a tilde before everything, even before the
end. -/

/-- The place of a character outside rows of digits; the end has a place of its own. -/
def weight : Option Char → Int
  | none => -1
  | some c =>
      if c.isDigit then 0
      else if c.isAlpha then c.toNat
      else if c = '~' then -2
      else c.toNat + 256

/-- Compares what precedes the next row of digits, unless it is the same in both texts;
the number bounds the characters. -/
def compareWords : Nat → Text → Text → Ordering × Text × Text
  | 0, first, second => (.eq, first, second)
  | n + 1, first, second =>
      if first.head?.any (!·.isDigit) ∨ second.head?.any (!·.isDigit) then
        match compare (weight first.head?) (weight second.head?) with
        | .eq => compareWords n first.tail second.tail
        | different => (different, first, second)
      else (.eq, first, second)

/-- Compares two rows of digits as numbers. -/
def compareRows (first second : Text) : Ordering :=
  let first := first.dropWhile (· == '0')
  let second := second.dropWhile (· == '0')
  (compare first.length second.length).then
    (if first = second then .eq else if Text.atMost first second then .lt else .gt)

/-- Compares words and rows of digits in turn; the number bounds the rows. -/
def compareParts : Nat → Text → Text → Ordering
  | 0, _, _ => .eq
  | n + 1, first, second =>
      if first = [] ∧ second = [] then .eq
      else
        match compareWords (first.length + second.length) first second with
        | (.eq, first, second) =>
            match compareRows (first.takeWhile Char.isDigit) (second.takeWhile Char.isDigit) with
            | .eq => compareParts n (first.dropWhile Char.isDigit) (second.dropWhile Char.isDigit)
            | different => different
        | (different, _, _) => different

def compareAll (first second : Text) : Ordering :=
  compareParts (first.length + second.length + 1) first second

/-- Whether a text is an ending such as a file has after its name. -/
def isEnding : Text → Bool
  | '.' :: c :: rest => (c.isAlpha || c = '~') && rest.all fun c => c.isAlphanum || c = '~'
  | _ => false

/-- The pieces of a text, each but the first starting with a dot. -/
def dottedPieces (text : Text) : List Text :=
  match Text.pieces '.' text with
  | [] => []
  | first :: rest => first :: rest.map ('.' :: ·)

/-- The text without the endings behind it. -/
def stem (text : Text) : Text :=
  match dottedPieces text with
  | [] => []
  | first :: rest => first ++ (rest.reverse.dropWhile isEnding).reverse.flatten

/-- The class of a name: the empty one, the two that lead nowhere else, those with a dot
in front, and all others. -/
def nameClass (text : Text) : Nat :=
  if text = [] then 0
  else if text = ['.'] then 1
  else if text = ['.', '.'] then 2
  else if text.head? = some '.' then 3
  else 4

def compareNames (first second : Text) : Ordering :=
  (compare (nameClass first) (nameClass second)).then
    ((compareAll (stem first) (stem second)).then (compareAll first second))

end CuratedHistory.Host.VersionOrder
