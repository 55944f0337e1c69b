import CuratedHistory.Text.Decimal
import CuratedHistory.Text.Regex

namespace CuratedHistory.Regex

/-! Reading regular expressions. An expression is a text of bytes, each one shown as
a character. Letters after a backslash stand for classes, places and characters;
what follows a question mark in parentheses tells their purpose. -/

/-- How letters, dots and anchors are understood. -/
structure Manner where
  anyCase : Bool
  dotAll : Bool
  byLine : Bool
  spaced : Bool
  deriving DecidableEq, Repr

def Manner.plain : Manner := ⟨false, false, false, false⟩

/-- The expression that is left to read, and how many groups have begun. -/
structure Reader where
  rest : Text
  groups : Nat
  deriving DecidableEq, Repr

def byteOf (c : Char) : UInt8 :=
  UInt8.ofNat c.toNat

def Manner.set (manner : Manner) (set : ByteSet) : ByteSet :=
  if manner.anyCase then set.withCases else set

def digitSet : ByteSet := .range 48 57

def upperSet : ByteSet := .range 65 90

def lowerSet : ByteSet := .range 97 122

def blankSet : ByteSet := (ByteSet.range 9 13).union (.single 32)

def horizontalSet : ByteSet := .ofList [9, 32, 0xA0]

def verticalSet : ByteSet := (ByteSet.range 10 13).union (.single 0x85)

/-- The classes that letters stand for after a backslash. -/
def classOfLetter? : Char → Option ByteSet
  | 'd' => some digitSet
  | 'D' => some digitSet.complement
  | 's' => some blankSet
  | 'S' => some blankSet.complement
  | 'w' => some wordSet
  | 'W' => some wordSet.complement
  | 'h' => some horizontalSet
  | 'H' => some horizontalSet.complement
  | 'v' => some verticalSet
  | 'V' => some verticalSet.complement
  | _ => none

def namedSets : List (String × ByteSet) := [
  ("alpha", upperSet.union lowerSet),
  ("lower", lowerSet),
  ("upper", upperSet),
  ("digit", digitSet),
  ("alnum", (upperSet.union lowerSet).union digitSet),
  ("space", blankSet),
  ("blank", .ofList [9, 32]),
  ("punct", (((ByteSet.range 33 47).union (.range 58 64)).union (.range 91 96)).union
    (.range 123 126)),
  ("graph", .range 33 126),
  ("print", .range 32 126),
  ("cntrl", (ByteSet.range 0 31).union (.single 127)),
  ("xdigit", (digitSet.union (.range 65 70)).union (.range 97 102)),
  ("ascii", .range 0 127),
  ("word", wordSet)]

def namedSet? (name : Text) : Option ByteSet :=
  (namedSets.find? fun entry => entry.1.toList == name).map Prod.snd

def hexValue (c : Char) : Nat :=
  if c.isDigit then c.toNat - 48 else c.toLower.toNat - 87

def isOctal (c : Char) : Bool :=
  '0' ≤ c && c ≤ '7'

def octalValue (digits : Text) : Nat :=
  digits.foldl (fun value digit => value * 8 + (digit.toNat - 48)) 0

/-- The characters at the start of a text that a test allows, at most so many. -/
def spanAtMost (most : Nat) (allowed : Char → Bool) (text : Text) : Text × Text :=
  let found := (text.take most).takeWhile allowed
  (found, text.drop found.length)

/-- The byte that a letter and what follows it stand for after a backslash. -/
def escapedByte? (letter : Char) (rest : Text) : Option (UInt8 × Text) :=
  match letter with
  | 'n' => some (10, rest)
  | 't' => some (9, rest)
  | 'r' => some (13, rest)
  | 'f' => some (12, rest)
  | 'a' => some (7, rest)
  | 'e' => some (27, rest)
  | 'c' =>
      match rest with
      | c :: rest => some (UInt8.ofNat (c.toUpper.toNat ^^^ 64), rest)
      | [] => none
  | 'x' =>
      match rest with
      | '\x7b' :: rest =>
          let digits := rest.takeWhile isHexDigit
          match rest.drop digits.length with
          | '\x7d' :: rest =>
              some (UInt8.ofNat (digits.foldl (fun n c => n * 16 + hexValue c) 0), rest)
          | _ => none
      | _ =>
          let (digits, rest) := spanAtMost 2 isHexDigit rest
          some (UInt8.ofNat (digits.foldl (fun n c => n * 16 + hexValue c) 0), rest)
  | '0' =>
      let (digits, rest) := spanAtMost 2 isOctal rest
      some (UInt8.ofNat (octalValue digits), rest)
  | _ => none

/-- The letters after a backslash that name nothing this reader knows. -/
def isRefusedLetter (c : Char) : Bool :=
  "LlNUupPXCR".toList.contains c

/-- The rest of a class after its bracket: its set and what follows it. -/
def readClass (fuel : Nat) (isFirst : Bool) (set : ByteSet) (text : Text) :
    Option (ByteSet × Text) :=
  match fuel, text with
  | 0, _ => none
  | _, [] => none
  | fuel + 1, ']' :: rest => if isFirst then member fuel set ']' rest else some (set, rest)
  | fuel + 1, '[' :: ':' :: rest =>
      let negated := rest.head? = some '^'
      let body := if negated then rest.drop 1 else rest
      let name := body.takeWhile fun c => c.isAlpha
      match body.drop name.length with
      | ':' :: ']' :: rest =>
          match namedSet? name with
          | none => none
          | some named =>
              readClass fuel false (set.union (if negated then named.complement else named)) rest
      | _ => member fuel set '[' (':' :: rest)
  | fuel + 1, '\\' :: c :: rest =>
      match classOfLetter? c with
      | some named => readClass fuel false (set.union named) rest
      | none =>
          match classByte? c rest with
          | some (byte, rest) => member fuel set (Char.ofNat byte.toNat) rest
          | none => none
  | fuel + 1, c :: rest => member fuel set c rest
where
  /-- The byte that an escape stands for inside a class. -/
  classByte? (c : Char) (rest : Text) : Option (UInt8 × Text) :=
    if c = 'b' then some (8, rest)
    else if isOctal c then
      let (digits, rest) := spanAtMost 3 isOctal (c :: rest)
      some (UInt8.ofNat (octalValue digits), rest)
    else
      match escapedByte? c rest with
      | some found => some found
      | none => if isRefusedLetter c then none else some (byteOf c, rest)
  /-- A member, which may be the first one of a range. -/
  member (fuel : Nat) (set : ByteSet) (first : Char) (rest : Text) : Option (ByteSet × Text) :=
    match rest with
    | '-' :: ']' :: _ => readClass fuel false (set.union (.single (byteOf first))) rest
    | '-' :: '\\' :: c :: rest =>
        match classOfLetter? c with
        | some named =>
            readClass fuel false
              (((set.union (.single (byteOf first))).union (.single 45)).union named) rest
        | none =>
            match classByte? c rest with
            | some (last, rest) => upTo fuel set first last rest
            | none => none
    | '-' :: last :: rest => upTo fuel set first (byteOf last) rest
    | rest => readClass fuel false (set.union (.single (byteOf first))) rest
  upTo (fuel : Nat) (set : ByteSet) (first : Char) (last : UInt8) (rest : Text) :
      Option (ByteSet × Text) :=
    if last < byteOf first then none
    else readClass fuel false (set.union (.range (byteOf first) last)) rest

/-- The numbers of a quantifier in braces, and what follows it. -/
def braces? (text : Text) : Option (Nat × Option Nat × Text) :=
  let least := text.takeWhile Char.isDigit
  if least = [] then none
  else
    match text.drop least.length with
    | '\x7d' :: rest => some (Decimal.value least, some (Decimal.value least), rest)
    | ',' :: rest =>
        let most := rest.takeWhile Char.isDigit
        match rest.drop most.length with
        | '\x7d' :: rest =>
            some (Decimal.value least, if most = [] then none else some (Decimal.value most), rest)
        | _ => none
    | _ => none

def mostRepetitions : Nat := 65535

/-- The quantifier at the start of a text, if there is one: the least and the most
repetitions, how eager it is, and the rest. -/
def quantifier? (text : Text) : Option (Nat × Option Nat × Eagerness × Text) :=
  let numbers : Option (Nat × Option Nat × Text) :=
    match text with
    | '*' :: rest => some (0, none, rest)
    | '+' :: rest => some (1, none, rest)
    | '?' :: rest => some (0, some 1, rest)
    | '\x7b' :: rest => braces? rest
    | _ => none
  numbers.map fun (least, most, rest) =>
    match rest with
    | '?' :: rest => (least, most, .reluctant, rest)
    | '+' :: rest => (least, most, .possessive, rest)
    | rest => (least, most, .greedy, rest)

def quantified (fuel : Nat) (body : Regex) (text : Text) : Option (Regex × Text) :=
  match fuel with
  | 0 => none
  | fuel + 1 =>
      match quantifier? text with
      | none => some (body, text)
      | some (least, most, eagerness, rest) =>
          if mostRepetitions < least ∨ most.any (fun most => most < least ∨ mostRepetitions < most)
          then none
          else
            let again :=
              match rest with
              | '\x7b' :: following => (braces? following).isSome
              | _ => false
            if again then quantified fuel (.repeated body least most eagerness) rest
            else some (.repeated body least most eagerness, rest)

/-- The manner after letters that set and, after a dash, unset its parts. -/
def mannerOf? (manner : Manner) (letters : Text) : Option Manner :=
  let (on, off) := Text.splitAtFirst (· == '-') letters
  let change (value : Bool) (manner : Option Manner) (letter : Char) : Option Manner :=
    manner.bind fun manner =>
      match letter with
      | 'i' => some { manner with anyCase := value }
      | 's' => some { manner with dotAll := value }
      | 'm' => some { manner with byLine := value }
      | 'x' => some { manner with spaced := value }
      | _ => none
  (off.drop 1).foldl (change false) (on.foldl (change true) (some manner))

/-- What a backslash and the letters after it stand for, and whether it can be
repeated. -/
def escape? (manner : Manner) (groups : Nat) (text : Text) : Option (Regex × Bool × Text) :=
  match text with
  | [] => none
  | 'b' :: rest => some (.standing .wordEdge, false, rest)
  | 'B' :: rest => some (.standing .noWordEdge, false, rest)
  | 'A' :: rest => some (.standing .textStart, false, rest)
  | 'Z' :: rest => some (.standing .lastLineStop, false, rest)
  | 'z' :: rest => some (.standing .textStop, false, rest)
  | 'N' :: rest => some (.oneOf (ByteSet.single 10).complement, true, rest)
  | c :: rest =>
      match classOfLetter? c with
      | some named => some (.oneOf named, true, rest)
      | none =>
          if '1' ≤ c ∧ c ≤ '9' then
            let digits := (c :: rest).takeWhile Char.isDigit
            let number := Decimal.value digits
            if number < 10 ∨ number ≤ groups then
              some (.same number manner.anyCase, true, (c :: rest).drop digits.length)
            else if isOctal c then
              let (digits, rest) := spanAtMost 3 isOctal (c :: rest)
              some (.oneOf (.single (UInt8.ofNat (octalValue digits))), true, rest)
            else some (.oneOf (.single (byteOf c)), true, rest)
          else
            match escapedByte? c rest with
            | some (byte, rest) => some (.oneOf (manner.set (.single byte)), true, rest)
            | none =>
                if isRefusedLetter c then none
                else some (.oneOf (manner.set (.single (byteOf c))), true, rest)

/-- The bytes of a text, one after the other. -/
def literal (manner : Manner) (text : Text) : Regex :=
  text.foldr (fun c rest => .sequence (.oneOf (manner.set (.single (byteOf c)))) rest) .nothing

/-- The text up to an end of quotation, and what follows it. -/
def quotation : Text → Text × Text
  | [] => ([], [])
  | '\\' :: 'E' :: rest => ([], rest)
  | c :: rest => ((c :: (quotation rest).1), (quotation rest).2)

/-- How a group in parentheses is understood. -/
inductive Opening where
  | group
  | plain (manner : Manner)
  /-- The manner of what follows; the parentheses hold nothing else. -/
  | setting (manner : Manner)
  | look (ahead wanted : Bool)
  | atomic
  | comment
  deriving DecidableEq, Repr

def opening? (manner : Manner) (text : Text) : Option (Opening × Text) :=
  match text with
  | '?' :: '#' :: rest => some (.comment, (rest.dropWhile (· ≠ ')')).drop 1)
  | '?' :: '=' :: rest => some (.look true true, rest)
  | '?' :: '!' :: rest => some (.look true false, rest)
  | '?' :: '<' :: '=' :: rest => some (.look false true, rest)
  | '?' :: '<' :: '!' :: rest => some (.look false false, rest)
  | '?' :: '>' :: rest => some (.atomic, rest)
  | '?' :: '|' :: rest => some (.plain manner, rest)
  | '?' :: 'P' :: '<' :: rest => some (.group, (rest.dropWhile (· ≠ '>')).drop 1)
  | '?' :: '<' :: rest => some (.group, (rest.dropWhile (· ≠ '>')).drop 1)
  | '?' :: '\'' :: rest => some (.group, (rest.dropWhile (· ≠ '\'')).drop 1)
  | '?' :: rest =>
      let letters := rest.takeWhile fun c => c.isAlpha || c == '-'
      match rest.drop letters.length, mannerOf? manner letters with
      | ':' :: rest, some manner => some (.plain manner, rest)
      | ')' :: rest, some manner => some (.setting manner, rest)
      | _, _ => none
  | rest => some (.group, rest)

def dotSet (manner : Manner) : ByteSet :=
  if manner.dotAll then .all else (ByteSet.single 10).complement

mutual

def alternatives (fuel : Nat) (manner : Manner) (reader : Reader) : Option (Regex × Reader) :=
  match fuel with
  | 0 => none
  | fuel + 1 =>
      match branch fuel manner reader with
      | none => none
      | some (first, manner, reader) =>
          match reader.rest with
          | '|' :: rest =>
              match alternatives fuel manner { reader with rest } with
              | none => none
              | some (second, reader) => some (.either first second, reader)
          | _ => some (first, reader)

/-- Items one after the other. -/
def branch (fuel : Nat) (manner : Manner) (reader : Reader) :
    Option (Regex × Manner × Reader) :=
  match fuel with
  | 0 => none
  | fuel + 1 =>
      let next (item : Regex) (manner : Manner) (reader : Reader) :
          Option (Regex × Manner × Reader) :=
        match branch fuel manner reader with
        | none => none
        | some (rest, manner, reader) => some (.sequence item rest, manner, reader)
      let repeatable (item : Regex) (reader : Reader) : Option (Regex × Manner × Reader) :=
        match quantified fuel item reader.rest with
        | none => none
        | some (item, rest) => next item manner { reader with rest }
      let fixed (item : Regex) (rest : Text) : Option (Regex × Manner × Reader) :=
        if (quantifier? rest).isSome then none else next item manner { reader with rest }
      match reader.rest with
      | [] | '|' :: _ | ')' :: _ => some (.nothing, manner, reader)
      | '\\' :: 'Q' :: rest =>
          let (quoted, rest) := quotation rest
          match quoted.getLast? with
          | none => next .nothing manner { reader with rest }
          | some last =>
              match quantified fuel (literal manner [last]) rest with
              | none => none
              | some (item, rest) =>
                  next (.sequence (literal manner quoted.dropLast) item) manner
                    { reader with rest }
      | '\\' :: 'E' :: rest => next .nothing manner { reader with rest }
      | '\\' :: rest =>
          match escape? manner reader.groups rest with
          | none => none
          | some (item, true, rest) => repeatable item { reader with rest }
          | some (item, false, rest) => fixed item rest
      | '^' :: rest => fixed (.standing (if manner.byLine then .lineStart else .textStart)) rest
      | '$' :: rest => fixed (.standing (if manner.byLine then .lineStop else .lastLineStop)) rest
      | '.' :: rest => repeatable (.oneOf (dotSet manner)) { reader with rest }
      | '[' :: '^' :: rest =>
          match readClass (2 * rest.length + 2) true .empty rest with
          | none => none
          | some (set, rest) =>
              repeatable (.oneOf (manner.set set).complement) { reader with rest }
      | '[' :: rest =>
          match readClass (2 * rest.length + 2) true .empty rest with
          | none => none
          | some (set, rest) => repeatable (.oneOf (manner.set set)) { reader with rest }
      | '(' :: rest =>
          match opening? manner rest with
          | none => none
          | some (.comment, rest) => next .nothing manner { reader with rest }
          | some (.setting manner, rest) => next .nothing manner { reader with rest }
          | some (opening, rest) =>
              let number := reader.groups + 1
              let groups := if opening = .group then number else reader.groups
              let inner :=
                match opening with
                | .plain manner => manner
                | _ => manner
              match alternatives fuel inner { rest, groups } with
              | some (body, { rest := ')' :: rest, groups }) =>
                  let item :=
                    match opening with
                    | .group => Regex.group number body
                    | .look ahead wanted => .look ahead wanted body
                    | .atomic => .atomic body
                    | _ => body
                  repeatable item { rest, groups }
              | _ => none
      | c :: rest =>
          if manner.spaced ∧ (c = ' ' ∨ c = '\t' ∨ c = '\n') then
            next .nothing manner { reader with rest }
          else if manner.spaced ∧ c = '#' then
            next .nothing manner { reader with rest := (rest.dropWhile (· ≠ '\n')).drop 1 }
          else if (quantifier? (c :: rest)).isSome then none
          else repeatable (.oneOf (manner.set (.single (byteOf c)))) { reader with rest }

end

def refersWithin (groups : Nat) : Regex → Bool
  | .same number _ => number ≤ groups
  | .sequence first second | .either first second =>
      refersWithin groups first && refersWithin groups second
  | .repeated body _ _ _ | .group _ body | .look _ _ body | .atomic body =>
      refersWithin groups body
  | _ => true

/-- The characters that show the bytes of a text. -/
def shownBytes (text : Text) : Text :=
  (Utf8.encode text).map fun byte => Char.ofNat byte.toNat

/-- The expression that a text describes, if it describes one. -/
def ofText? (manner : Manner) (text : Text) : Option Regex :=
  let shown := shownBytes text
  match alternatives (4 * shown.length + 8) manner { rest := shown, groups := 0 } with
  | some (regex, { rest := [], groups }) =>
      if refersWithin groups regex then some regex else none
  | _ => none

end CuratedHistory.Regex
