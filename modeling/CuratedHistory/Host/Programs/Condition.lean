import CuratedHistory.Host.Console
import CuratedHistory.Host.Text.Numeral

namespace CuratedHistory.Host.Programs

/-! Conditions on words and files. -/

inductive FileTest where
  | readable
  | writable
  | executable
  | exists_
  | plainFile
  | directory
  | filled
  | never
  deriving DecidableEq, Repr

inductive WordOrder where
  | equal
  | unequal
  | before
  | after
  deriving DecidableEq, Repr

inductive NumberOrder where
  | equal
  | unequal
  | atLeast
  | greater
  | atMost
  | less
  deriving DecidableEq, Repr

inductive ConditionSign where
  | file (test : FileTest)
  | empty
  | filled
  | terminal
  | words (order : WordOrder)
  | numbers (order : NumberOrder)
  /-- Two files, by their age or by whether they are the same. -/
  | newer
  | older
  | same
  | not
  | and
  | or
  | open_
  | close
  deriving DecidableEq, Repr

namespace ConditionSign

def named : List (String × ConditionSign) :=
  [("-r", .file .readable), ("-w", .file .writable), ("-x", .file .executable),
    ("-e", .file .exists_), ("-f", .file .plainFile), ("-d", .file .directory),
    ("-c", .file .never), ("-b", .file .never), ("-p", .file .never), ("-u", .file .never),
    ("-g", .file .never), ("-k", .file .never), ("-s", .file .filled), ("-t", .terminal),
    ("-z", .empty), ("-n", .filled), ("-h", .file .never), ("-L", .file .never),
    ("-O", .file .exists_), ("-G", .file .exists_), ("-S", .file .never),
    ("=", .words .equal), ("!=", .words .unequal), ("<", .words .before), (">", .words .after),
    ("-eq", .numbers .equal), ("-ne", .numbers .unequal), ("-ge", .numbers .atLeast),
    ("-gt", .numbers .greater), ("-le", .numbers .atMost), ("-lt", .numbers .less),
    ("-nt", .newer), ("-ot", .older), ("-ef", .same), ("!", .not), ("-a", .and), ("-o", .or),
    ("(", .open_), (")", .close)]

def ofWord? (word : Octets) : Option ConditionSign :=
  (named.find? (·.1.toList == word)).map Prod.snd

def isUnary : ConditionSign → Bool
  | .file _ | .empty | .filled | .terminal => true
  | _ => false

def isBinary : ConditionSign → Bool
  | .words _ | .numbers _ | .newer | .older | .same => true
  | _ => false

end ConditionSign

/-- Where conditions are decided. -/
structure ConditionPlace where
  files : FileSystem
  /-- Whether two equal signs are known too. -/
  extended : Bool

namespace ConditionPlace

def sign? (place : ConditionPlace) (word : Octets) : Option ConditionSign :=
  if place.extended ∧ word = "==".toList then some (.words .equal)
  else ConditionSign.ofWord? word

def fileHolds (place : ConditionPlace) (test : FileTest) (path : Octets) : Bool :=
  let path := Octets.toText path
  match test with
  | .readable | .writable | .exists_ => place.files.pathExists path
  | .executable => place.files.isDirectory path || place.files.isExecutable path
  | .plainFile => place.files.isFile path
  | .directory => place.files.isDirectory path
  | .filled =>
      match place.files.find path with
      | .ok (.file _ content) => !content.isEmpty
      | .ok .directory => true
      | _ => false
  | .never => false

def number (word : Octets) : Except Octets Int :=
  match Numeral.ofOctets? true word with
  | some n => .ok n
  | none => .error ("Illegal number: ".toList ++ word)

def numbersHold (order : NumberOrder) (a b : Int) : Bool :=
  match order with
  | .equal => a = b
  | .unequal => a ≠ b
  | .atLeast => b ≤ a
  | .greater => b < a
  | .atMost => a ≤ b
  | .less => a < b

def wordsHold (order : WordOrder) (a b : Octets) : Bool :=
  match order with
  | .equal => a = b
  | .unequal => a ≠ b
  | .before => a ≠ b && Text.atMost a b
  | .after => !Text.atMost a b

def binaryHolds (place : ConditionPlace) (sign : ConditionSign) (a b : Octets) :
    Except Octets Bool :=
  match sign with
  | .words order => .ok (wordsHold order a b)
  | .numbers order => do return numbersHold order (← number a) (← number b)
  | .same =>
      match place.files.locate (Octets.toText a), place.files.locate (Octets.toText b) with
      | .ok first, .ok second => .ok (first = second && (place.files.node? first).isSome)
      | _, _ => .ok false
  | _ => .ok false

/-- Whether a word is taken as an operand although it is a sign for one operand. -/
def isOperand (place : ConditionPlace) (rest : List Octets) : Bool :=
  match rest with
  | [] => true
  | [_] => false
  | next :: _ :: _ => (place.sign? next).any (·.isBinary)

def signAt? (place : ConditionPlace) (words : List Octets) : Option ConditionSign :=
  match words with
  | [] => none
  | word :: rest =>
      (place.sign? word).bind fun sign =>
        if sign.isUnary && place.isOperand rest then none
        else if sign = .open_ && rest.isEmpty then none
        else some sign

def complaint (word : Octets) (text : String) : Octets :=
  if word = [] then text.toList else word ++ ": ".toList ++ text.toList

/-- A word alone, or compared with another one. -/
def comparison (place : ConditionPlace) (word : Octets) (rest : List Octets) :
    Except Octets (Bool × List Octets) :=
  match place.signAt? rest, rest with
  | some sign, operator :: after =>
      if sign.isBinary then
        match after with
        | [] => .error (complaint operator "argument expected")
        | operand :: _ => (place.binaryHolds sign word operand).map fun found => (found, after)
      else .ok (word ≠ [], word :: rest)
  | _, _ => .ok (word ≠ [], word :: rest)

mutual

/-- Conditions with -o between them; what is left starts at the last word used. The
flag tells that the first word is an operand in any case. -/
def either (place : ConditionPlace) : Nat → Bool → List Octets →
    Except Octets (Bool × List Octets)
  | 0, _, words => .ok (false, words)
  | n + 1, asOperand, words => do
      let (first, rest) ← both place n asOperand words
      if place.signAt? (rest.drop 1) = some .or then
        let (second, rest) ← either place n false (rest.drop 2)
        return (first || second, rest)
      else return (first, rest)

def both (place : ConditionPlace) : Nat → Bool → List Octets →
    Except Octets (Bool × List Octets)
  | 0, _, words => .ok (false, words)
  | n + 1, asOperand, words => do
      let (first, rest) ← inverted place n asOperand words
      if place.signAt? (rest.drop 1) = some .and then
        let (second, rest) ← both place n false (rest.drop 2)
        return (first && second, rest)
      else return (first, rest)

def inverted (place : ConditionPlace) : Nat → Bool → List Octets →
    Except Octets (Bool × List Octets)
  | 0, _, words => .ok (false, words)
  | n + 1, asOperand, words => do
      if !asOperand && place.signAt? words = some .not then
        match words with
        | [_] => return (true, words)
        | _ =>
            let (found, rest) ← inverted place n false (words.drop 1)
            return (!found, rest)
      else primary place n asOperand words

def primary (place : ConditionPlace) : Nat → Bool → List Octets →
    Except Octets (Bool × List Octets)
  | 0, _, words => .ok (false, words)
  | n + 1, asOperand, words => do
      match words with
      | [] => return (false, [])
      | word :: rest =>
          let sign := if asOperand then none else place.signAt? words
          match sign with
          | some .open_ =>
              if place.signAt? rest = some .close then return (false, rest)
              else
                let (found, after) ← either place n false rest
                if place.signAt? (after.drop 1) = some .close then return (found, after.drop 1)
                else .error "closing paren expected".toList
          | some sign =>
              if sign.isUnary then
                match rest with
                | [] => .error (complaint word "argument expected")
                | operand :: _ =>
                    match sign with
                    | .empty => return (operand = [], rest)
                    | .filled => return (operand ≠ [], rest)
                    | .terminal => do
                        let _ ← number operand
                        return (false, rest)
                    | .file test => return (place.fileHolds test operand, rest)
                    | _ => return (false, rest)
              else comparison place word rest
          | none => comparison place word rest

end

/-- Decides words, whose number tells what some signs mean. The number bounds the signs
in front. -/
def judge (place : ConditionPlace) : Nat → Bool → List Octets → Except Octets Bool
  | 0, _, _ => .ok false
  | n + 1, holds, words =>
      let evaluate (asOperand : Bool) (words : List Octets) : Except Octets Bool := do
        let (found, rest) ← either place (4 * words.length + 8) asOperand words
        match rest with
        | used :: _ :: _ => .error (complaint used "unexpected operator")
        | _ => return (found == holds)
      match words with
      | [] => .ok (!holds)
      | first :: others =>
          let isBinary := words.length = 3 ∧ (place.sign? (others.headD [])).any (·.isBinary)
          if isBinary then evaluate true words
          else if words.length = 3 ∨ words.length = 4 then
            if first = ['('] ∧ words.getLast? = some [')'] then evaluate false others.dropLast
            else if first = ['!'] then judge place n (!holds) others
            else evaluate false words
          else evaluate false words

end ConditionPlace

/-- Decides the words of a test; a bracket in front needs one at the end. -/
def Condition.decides (files : FileSystem) (extended : Bool) (name : Octets)
    (words : List Octets) : Except Octets Bool :=
  let place : ConditionPlace := { files, extended }
  if name.head? = some '[' then
    if words.getLast? = some [']'] then
      place.judge (words.length + 1) true words.dropLast
    else .error "missing ]".toList
  else place.judge (words.length + 1) true words

/-- The status of a condition: zero if it holds, one if not, two if it is none. -/
def test : Program := fun name words console =>
  let isBracket := name.getLast? = some '['
  match Condition.decides console.files true (if isBracket then ['['] else name) words with
  | .ok true => (console, 0)
  | .ok false => (console, 1)
  | .error text =>
      (console.complain (name ++ ": ".toList ++ text), 2)

end CuratedHistory.Host.Programs
