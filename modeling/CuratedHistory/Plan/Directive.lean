import CuratedHistory.Plan.Error

namespace CuratedHistory

/-! One plan line, before any commit is looked up:

    action hash [%label] [#message]

The label runs up to the first hash sign that no backslash directly precedes; a
backslash and a hash sign together stand for a hash sign in it. Blank lines and
lines whose first character after blanks is a hash sign are no directives. -/

structure Directive where
  action : Action
  /-- The hash in lower case. -/
  hash : Text
  /-- The text after a percent sign, trimmed; empty when nothing stands there. -/
  label : Option Text
  message : Option Text
  deriving DecidableEq, Repr

namespace Directive

def shortestHash : Nat := 7

def fullHash : Nat := 40

/-- Seven to forty hexadecimal digits. -/
def isHash (token : Text) : Bool :=
  (shortestHash ≤ Text.byteLength token && Text.byteLength token ≤ fullHash) &&
    token.all isHexDigit

def endsHash (c : Char) : Bool :=
  isBlank c || c == '%' || c == '#'

/-- The label with its escapes resolved, and what follows the hash sign that
ends it. -/
def splitLabel : Text → Text × Option Text
  | [] => ([], none)
  | '\\' :: '#' :: rest => ('#' :: (splitLabel rest).1, (splitLabel rest).2)
  | '#' :: rest => ([], some rest)
  | c :: rest => (c :: (splitLabel rest).1, (splitLabel rest).2)

def readTail (tail : Text) : Except Refusal (Option Text × Option Text) :=
  match tail with
  | [] => .ok (none, none)
  | '%' :: rest =>
      .ok (some (Text.trim (splitLabel rest).1), (splitLabel rest).2.bind Text.nonBlank?)
  | '#' :: rest => .ok (none, Text.nonBlank? rest)
  | _ => .error (.unexpectedText tail)

def readAction (keyword : Text) : Except Refusal Action :=
  match Action.named? keyword with
  | some action => .ok action
  | none => .error (.unknownAction keyword)

/-- The hash and all that follows it, from what follows the keyword. -/
def readHash (rest : Text) : Except Refusal (Text × Text) :=
  match rest with
  | [] => .error .missingHash
  | c :: _ =>
      if c = '%' ∨ c = '#' then .error .missingHash
      else
        let (hash, tail) := Text.splitAtFirst endsHash rest
        if isHash hash then .ok (hash, tail) else .error (.invalidHash hash)

def ofTrimmed (line : Text) : Except Refusal Directive := do
  let (keyword, rest) := Text.splitAtFirst isBlank line
  let action ← readAction keyword
  let (hash, tail) ← readHash (Text.trimStart rest)
  let (label, message) ← readTail (Text.trim tail)
  return { action, hash := Text.lower hash, label, message }

/-- The directive on a line, if the line is one. -/
def ofLine (line : Text) : Except Refusal (Option Directive) :=
  match Text.trim line with
  | [] => .ok none
  | '#' :: _ => .ok none
  | c :: rest => (ofTrimmed (c :: rest)).map some

end Directive

end CuratedHistory
