import CuratedHistory.Host.Console

namespace CuratedHistory.Host

namespace Programs

/-! The options of a command line of a program. A word that starts with one dash holds
letters, one that starts with two holds a name, which may be cut short as long as it
fits one name only; two dashes alone end the options. -/

/-- Whether an option has a value. -/
inductive OptionValue where
  | absent
  | optional
  | required
  deriving DecidableEq, Repr

/-- An option under a name, or a letter, or both. -/
structure OptionForm where
  key : String
  letter : Option Char
  /-- Whether the key is a name that can be written after two dashes. -/
  named : Bool
  value : OptionValue

namespace OptionForm

def letterOnly (letter : Char) (value : OptionValue) : OptionForm :=
  { key := String.singleton letter, letter := some letter, named := false, value }

def both (letter : Char) (key : String) (value : OptionValue) : OptionForm :=
  { key, letter := some letter, named := true, value }

def nameOnly (key : String) (value : OptionValue) : OptionForm :=
  { key, letter := none, named := true, value }

end OptionForm

/-- An option that was given, or what is wrong with a word. -/
inductive OptionEvent where
  | given (key : String) (value : Octets)
  | problem (text : Octets)

/-- The options in their order, and the words that are none. -/
structure OptionScan where
  events : List OptionEvent
  operands : List Octets

namespace OptionScan

def candidates (forms : List OptionForm) (word : Octets) : List OptionForm :=
  let named := forms.filter (·.named)
  match named.find? (·.key.toList == word) with
  | some form => [form]
  | none => named.filter fun form => word.isPrefixOf form.key.toList

def ambiguity (word : Octets) (forms : List OptionForm) : Octets :=
  "option '--".toList ++ word ++ "' is ambiguous; possibilities:".toList ++
    forms.flatMap fun form => " '--".toList ++ form.key.toList ++ ['\'']

/-- A word after two dashes, with the words after it. -/
def ofName (forms : List OptionForm) (word : Octets) (rest : List Octets) :
    OptionEvent × List Octets :=
  let (name, value) := Text.splitAtFirst (· == '=') word
  match candidates forms name, value, rest with
  | [], _, _ => (.problem ("unrecognized option '--".toList ++ word ++ ['\'']), rest)
  | [form], _ :: value, _ =>
      if form.value = .absent then
        (.problem ("option '--".toList ++ form.key.toList ++
          "' doesn't allow an argument".toList), rest)
      else (.given form.key value, rest)
  | [form], [], next :: after =>
      if form.value = .required then (.given form.key next, after)
      else (.given form.key [], rest)
  | [form], [], [] =>
      if form.value = .required then
        (.problem ("option '--".toList ++ form.key.toList ++ "' requires an argument".toList), [])
      else (.given form.key [], [])
  | several, _, _ => (.problem (ambiguity word several), rest)

/-- The letters after one dash, with the words after them. -/
def ofLetters (forms : List OptionForm) : Octets → List Octets → List OptionEvent × List Octets
  | [], rest => ([], rest)
  | letter :: letters, rest =>
      match forms.find? (·.letter == some letter) with
      | none =>
          let (events, rest) := ofLetters forms letters rest
          (.problem ("invalid option -- '".toList ++ [letter, '\'']) :: events, rest)
      | some form =>
          if form.value = .absent ∨ (form.value = .optional ∧ letters = []) then
            let (events, rest) := ofLetters forms letters rest
            (.given form.key [] :: events, rest)
          else if letters ≠ [] then ([.given form.key letters], rest)
          else
            match rest with
            | next :: after => ([.given form.key next], after)
            | [] =>
                ([.problem ("option requires an argument -- '".toList ++ [letter, '\''])], [])

/-- Scans the words. Options may stand among the other words if they are to be picked
out, else the first other word ends them. The number bounds the words. -/
def scanWords (forms : List OptionForm) (picksOut : Bool) : Nat → List Octets → OptionScan
  | 0, words => { events := [], operands := words }
  | _ + 1, [] => { events := [], operands := [] }
  | n + 1, word :: rest =>
      match word with
      | ['-', '-'] => { events := [], operands := rest }
      | '-' :: '-' :: name =>
          let (event, rest) := ofName forms name rest
          let scan := scanWords forms picksOut n rest
          { scan with events := event :: scan.events }
      | '-' :: c :: letters =>
          let (events, rest) := ofLetters forms (c :: letters) rest
          let scan := scanWords forms picksOut n rest
          { scan with events := events ++ scan.events }
      | _ =>
          if picksOut then
            let scan := scanWords forms picksOut n rest
            { scan with operands := word :: scan.operands }
          else { events := [], operands := word :: rest }

def ofWords (forms : List OptionForm) (picksOut : Bool) (words : List Octets) : OptionScan :=
  scanWords forms picksOut words.length words

/-- The options given, unless a word is wrong. -/
def given (scan : OptionScan) : Except Octets (List (String × Octets)) :=
  scan.events.mapM fun event =>
    match event with
    | .given key value => .ok (key, value)
    | .problem text => .error text

end OptionScan

end Programs

namespace Console

def fail (console : Console) (name text : Octets) (status : Nat) : Console × Nat :=
  (console.complain (name ++ ": ".toList ++ text), status)

/-- Says what is wrong with the command line, and where to read about it. -/
def failUsage (console : Console) (name text : Octets) (status : Nat) : Console × Nat :=
  ((console.complain (name ++ ": ".toList ++ text)).complain
    ("Try '".toList ++ name ++ " --help' for more information.".toList), status)

end Console

end CuratedHistory.Host
