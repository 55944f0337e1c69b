namespace CuratedHistory

/-! Texts are lists of characters. Blank characters are those of the Unicode
White_Space property; letters change case only inside ASCII; a line ends at a
line feed, less one carriage return directly before it. -/

abbrev Text := List Char

/-- The characters of the Unicode White_Space property. -/
def isBlank (c : Char) : Bool :=
  (9 ≤ c.toNat && c.toNat ≤ 13) || c.toNat == 0x20 || c.toNat == 0x85 || c.toNat == 0xA0 ||
    c.toNat == 0x1680 || (0x2000 ≤ c.toNat && c.toNat ≤ 0x200A) || c.toNat == 0x2028 ||
    c.toNat == 0x2029 || c.toNat == 0x202F || c.toNat == 0x205F || c.toNat == 0x3000

/-- The digits of base sixteen, in either case. -/
def isHexDigit (c : Char) : Bool :=
  c.isDigit || ('a' ≤ c && c ≤ 'f') || ('A' ≤ c && c ≤ 'F')

namespace Text

def trimStart (text : Text) : Text :=
  text.dropWhile isBlank

def trimEnd (text : Text) : Text :=
  (text.reverse.dropWhile isBlank).reverse

/-- The text without the blank characters at its two ends. -/
def trim (text : Text) : Text :=
  trimEnd (trimStart text)

/-- ASCII letters in lower case, every other character as it is. -/
def lower (text : Text) : Text :=
  text.map Char.toLower

/-- The number of bytes that the text takes in UTF-8. -/
def byteLength : Text → Nat
  | [] => 0
  | c :: rest => c.utf8Size + byteLength rest

/-- Whether a text comes before another one, or is equal to it, in the order of
code points, which is also the order of the bytes in UTF-8. -/
def atMost : Text → Text → Bool
  | [], _ => true
  | _ :: _, [] => false
  | c :: first, d :: second => c.toNat < d.toNat || (c == d && atMost first second)

/-- What follows the given beginning, when the text has it. -/
def after? : Text → Text → Option Text
  | [], text => some text
  | _ :: _, [] => none
  | b :: beginning, c :: text => if b = c then after? beginning text else none

/-- What precedes the given ending, when the text has it. -/
def before? (ending text : Text) : Option Text :=
  (after? ending.reverse text.reverse).map List.reverse

/-- The text in two: up to the first character of a kind, and from it on. -/
def splitAtFirst (ends : Char → Bool) (text : Text) : Text × Text :=
  (text.takeWhile (fun c => !ends c), text.dropWhile (fun c => !ends c))

/-- The text, unless nothing but blanks is in it. -/
def nonBlank? (text : Text) : Option Text :=
  if trim text = [] then none else some (trim text)

/-- The lines of a text. A final line feed starts no further line, and only a
line that a line feed ends loses a carriage return. -/
def lines : Text → List Text
  | [] => []
  | '\n' :: rest => [] :: lines rest
  | '\r' :: '\n' :: rest => [] :: lines rest
  | c :: rest =>
      match lines rest with
      | [] => [[c]]
      | line :: following => (c :: line) :: following

/-- The pieces between the separators, one more than there are separators. -/
def pieces (separator : Char) : Text → List Text
  | [] => [[]]
  | c :: rest =>
      if c = separator then [] :: pieces separator rest
      else
        match pieces separator rest with
        | [] => [[c]]
        | piece :: following => (c :: piece) :: following

/-- The longest runs of characters that are not blank. -/
def words : Text → List Text
  | [] => []
  | c :: rest =>
      if isBlank c then words rest
      else
        match rest with
        | [] => [[c]]
        | d :: _ =>
            if isBlank d then [c] :: words rest
            else
              match words rest with
              | [] => [[c]]
              | word :: following => (c :: word) :: following

/-- The texts one after another with a separator between neighbours. -/
def join (separator : Text) : List Text → Text
  | [] => []
  | [text] => text
  | text :: rest => text ++ separator ++ join separator rest

end Text

def unlines (texts : List Text) : Text :=
  texts.flatMap (fun line => line ++ ['\n'])

end CuratedHistory
