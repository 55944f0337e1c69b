import CuratedHistory.Host.Text.Numeral

namespace CuratedHistory.Host.Shell

/-! Arithmetic of a shell: numbers of sixty-four bits that wrap around, with the
operators and the precedences of most languages. Variables can be assigned on the
way. -/

/-- A number brought into sixty-four bits with a sign. -/
def wrapped (n : Int) : Int :=
  Int.bmod n (1 <<< 64)

inductive BinarySign where
  | times
  | divide
  | remainder
  | plus
  | minus
  | shiftLeft
  | shiftRight
  | less
  | atMost
  | atLeast
  | greater
  | equal
  | unequal
  | bitAnd
  | bitXor
  | bitOr
  deriving DecidableEq, Repr

/-- Signs with a lower rank bind tighter. -/
def BinarySign.rank : BinarySign → Nat
  | .times | .divide | .remainder => 0
  | .plus | .minus => 1
  | .shiftLeft | .shiftRight => 2
  | .less | .atMost | .atLeast | .greater => 3
  | .equal | .unequal => 4
  | .bitAnd => 5
  | .bitXor => 6
  | .bitOr => 7

inductive SumToken where
  | number (n : Int)
  | named (name : Octets)
  | sign (sign : BinarySign)
  | assign (sign : Option BinarySign)
  | not
  | complement
  | and
  | or
  | question
  | colon
  | open_
  | close
  | bad
  deriving DecidableEq, Repr

namespace SumToken

def signs : List (String × SumToken) :=
  [("<<=", .assign (some .shiftLeft)), (">>=", .assign (some .shiftRight)),
    ("<<", .sign .shiftLeft), (">>", .sign .shiftRight), ("<=", .sign .atMost),
    (">=", .sign .atLeast), ("==", .sign .equal), ("!=", .sign .unequal), ("&&", .and),
    ("||", .or), ("*=", .assign (some .times)), ("/=", .assign (some .divide)),
    ("%=", .assign (some .remainder)), ("+=", .assign (some .plus)),
    ("-=", .assign (some .minus)), ("&=", .assign (some .bitAnd)),
    ("^=", .assign (some .bitXor)), ("|=", .assign (some .bitOr)), ("*", .sign .times),
    ("/", .sign .divide), ("%", .sign .remainder), ("+", .sign .plus), ("-", .sign .minus),
    ("<", .sign .less), (">", .sign .greater), ("&", .sign .bitAnd), ("^", .sign .bitXor),
    ("|", .sign .bitOr), ("=", .assign none), ("!", .not), ("~", .complement),
    ("?", .question), (":", .colon), ("(", .open_), (")", .close)]

/-- The sign at the start, and what follows it. -/
def signAt? (octets : Octets) : Option (SumToken × Octets) :=
  signs.findSome? fun entry =>
    (Text.after? entry.1.toList octets).map fun rest => (entry.2, rest)

/-- The tokens of an expression. The number bounds the octets. -/
def read : Nat → Octets → List SumToken
  | 0, _ => []
  | _ + 1, [] => []
  | n + 1, c :: rest =>
      if c = ' ' ∨ c = '\t' ∨ c = '\n' then read n rest
      else if c.isDigit then
        let (value, after) := Numeral.read (c :: rest)
        .number (Numeral.clamped value) :: read n after
      else if c.isAlpha ∨ c = '_' then
        let isPart (d : Char) : Bool := d.isAlphanum || d = '_'
        .named (c :: rest.takeWhile isPart) :: read n (rest.dropWhile isPart)
      else
        match signAt? (c :: rest) with
        | some (token, after) => token :: read n after
        | none => [.bad]

def ofOctets (octets : Octets) : List SumToken :=
  read (octets.length + 1) octets

end SumToken

/-- Why an expression has no value. -/
inductive SumError where
  | primaryExpected
  | closeExpected
  | colonExpected
  | endExpected
  | divisionByZero
  | notNumber (value : Octets)
  deriving DecidableEq, Repr

def SumError.message (expression : Octets) (error : SumError) : Octets :=
  let told (text : String) : Octets :=
    "arithmetic expression: ".toList ++ text.toList ++ ": \"".toList ++ expression ++ ['"']
  match error with
  | .primaryExpected => told "expecting primary"
  | .closeExpected => told "expecting ')'"
  | .colonExpected => told "expecting ':'"
  | .endExpected => told "expecting EOF"
  | .divisionByZero => told "division by zero"
  | .notNumber value => "Illegal number: ".toList ++ value

/-- The values of variables, the latest assigned first. -/
abbrev SumVariables := List (Octets × Octets)

/-- What is left of the tokens, and the variables. -/
structure SumState where
  tokens : List SumToken
  bindings : SumVariables
  assigned : List (Octets × Octets)

abbrev Sum := StateT SumState (Except SumError)

namespace Sum

def truth (b : Bool) : Int :=
  if b then 1 else 0

/-- The bits of a number as a natural one. -/
def bits (n : Int) : Nat :=
  (n % (1 <<< 64 : Nat)).toNat

def apply (sign : BinarySign) (a b : Int) : Except SumError Int :=
  match sign with
  | .times => .ok (wrapped (a * b))
  | .divide => if b = 0 then .error .divisionByZero else .ok (wrapped (Int.tdiv a b))
  | .remainder => if b = 0 then .error .divisionByZero else .ok (wrapped (Int.tmod a b))
  | .plus => .ok (wrapped (a + b))
  | .minus => .ok (wrapped (a - b))
  | .shiftLeft => .ok (wrapped (bits a <<< (bits b % 64) : Nat))
  | .shiftRight => .ok (a / (1 <<< (bits b % 64) : Nat))
  | .less => .ok (truth (a < b))
  | .atMost => .ok (truth (a ≤ b))
  | .atLeast => .ok (truth (b ≤ a))
  | .greater => .ok (truth (b < a))
  | .equal => .ok (truth (a = b))
  | .unequal => .ok (truth (a ≠ b))
  | .bitAnd => .ok (wrapped (bits a &&& bits b : Nat))
  | .bitXor => .ok (wrapped (bits a ^^^ bits b : Nat))
  | .bitOr => .ok (wrapped (bits a ||| bits b : Nat))

def peek? : Sum (Option SumToken) := fun state =>
  .ok (state.tokens.head?, state)

def skip : Sum Unit :=
  modify fun state => { state with tokens := state.tokens.tail }

def fail {α : Type} (error : SumError) : Sum α := fun _ => .error error

def expect (token : SumToken) (error : SumError) : Sum Unit := do
  if (← peek?) = some token then skip else fail error

/-- The value of a variable; one that is not set or empty is zero. -/
def lookUp (name : Octets) : Sum Int := fun state =>
  match state.bindings.lookup name with
  | none | some [] => .ok (0, state)
  | some value =>
      match Numeral.ofOctets? false value with
      | some n => .ok (n, state)
      | none => .error (.notNumber value)

def assign (name : Octets) (n : Int) : Sum Unit :=
  modify fun state => { state with
    bindings := (name, Decimal.signed n) :: state.bindings
    assigned := (name, Decimal.signed n) :: state.assigned }

mutual

/-- A value with the signs in front of it. The flag tells whether it counts. -/
def primary : Nat → Bool → Sum Int
  | 0, _ => fail .primaryExpected
  | n + 1, counts => do
      match ← peek? with
      | some (.number value) =>
          skip
          return value
      | some (.named name) =>
          skip
          if counts then lookUp name else return 0
      | some (.sign .plus) =>
          skip
          primary n counts
      | some (.sign .minus) =>
          skip
          return wrapped (-(← primary n counts))
      | some .not =>
          skip
          return truth ((← primary n counts) = 0)
      | some .complement =>
          skip
          return -(← primary n counts) - 1
      | some .open_ =>
          skip
          let value ← assignment n counts
          expect .close .closeExpected
          return value
      | _ => fail .primaryExpected

/-- Signs of a rank below a bound between values, after the first value. -/
def signsBelow : Nat → Bool → Nat → Int → Sum Int
  | 0, _, _, value => return value
  | n + 1, counts, bound, value => do
      match ← peek? with
      | some (.sign sign) =>
          if sign.rank < bound then
            skip
            let second ← primary n counts
            let second ← signsBelow n counts sign.rank second
            let value ←
              if counts then (fun state => (apply sign value second).map (·, state))
              else pure second
            signsBelow n counts bound value
          else return value
      | _ => return value

def conjunction : Nat → Bool → Sum Int
  | 0, _ => fail .primaryExpected
  | n + 1, counts => do
      let first ← primary n counts
      let first ← signsBelow n counts 8 first
      if (← peek?) = some .and then
        skip
        let second ← conjunction n (counts && first ≠ 0)
        return truth (first ≠ 0 && second ≠ 0)
      else return first

def disjunction : Nat → Bool → Sum Int
  | 0, _ => fail .primaryExpected
  | n + 1, counts => do
      let first ← conjunction n counts
      if (← peek?) = some .or then
        skip
        let second ← disjunction n (counts && first = 0)
        return truth (first ≠ 0 || second ≠ 0)
      else return first

def alternative : Nat → Bool → Sum Int
  | 0, _ => fail .primaryExpected
  | n + 1, counts => do
      let condition ← disjunction n counts
      if (← peek?) = some .question then
        skip
        let first ← assignment n (counts && condition ≠ 0)
        expect .colon .colonExpected
        let second ← alternative n (counts && condition = 0)
        return if condition ≠ 0 then first else second
      else return condition

def assignment : Nat → Bool → Sum Int
  | 0, _ => fail .primaryExpected
  | n + 1, counts => do
      match (← get).tokens with
      | .named name :: .assign sign :: rest =>
          modify fun state => { state with tokens := rest }
          let value ← assignment n counts
          if counts then
            let value ←
              match sign with
              | none => pure value
              | some sign =>
                  let before ← lookUp name
                  fun state => (apply sign before value).map (·, state)
            assign name value
            return value
          else return value
      | _ => alternative n counts

end

/-- The value of an expression, and the variables that it sets, the latest first. -/
def evaluate (bindings : SumVariables) (expression : Octets) :
    Except SumError (Int × List (Octets × Octets)) :=
  let tokens := SumToken.ofOctets expression
  match (assignment (4 * tokens.length + 4) true).run { tokens, bindings, assigned := [] } with
  | .error error => .error error
  | .ok (value, state) =>
      if state.tokens = [] then .ok (value, state.assigned) else .error .endExpected

end Sum

end CuratedHistory.Host.Shell
