import CuratedHistory.CommandLine.Options
import CuratedHistory.Text.Similarity

namespace CuratedHistory

/-! Reading the words of a command line, from left to right. An option that still
waits for its value, or whose value is not checked yet, is pending; the next
argument settles it. -/

inductive ArgumentError where
  | unknownArgument
  | invalidSubcommand
  | argumentConflict
  | tooManyValues
  | invalidValue
  | valueValidation
  | missingArgument
  | displayHelp
  | displayVersion
  deriving DecidableEq, Repr

/-- Help and version are asked for; all else is a mistake. -/
def ArgumentError.exitCode : ArgumentError → Nat
  | .displayHelp => 0
  | .displayVersion => 0
  | _ => 2

/-- The arguments that are given, each one once, with their values. -/
abbrev Given := List (ArgumentName × Text)

namespace Given

def value? (given : Given) (name : ArgumentName) : Option Text :=
  (given.find? (·.1 == name)).map Prod.snd

def has (given : Given) (name : ArgumentName) : Bool :=
  given.any (·.1 == name)

end Given

/-- The largest number of 32 bits. -/
def largestCount : Nat := 4294967295

def withoutPlus : Text → Text
  | '+' :: rest => rest
  | text => text

def readCount? (text : Text) : Option Nat :=
  (Decimal.read? (withoutPlus text)).filter fun count => 1 ≤ count ∧ count ≤ largestCount

/-- Refuses a value that a rule does not admit. -/
def ValueRule.check (rule : ValueRule) (value : Text) : Except ArgumentError Unit :=
  match rule with
  | .text => .ok ()
  | .path => if value = [] then .error .invalidValue else .ok ()
  | .count => if (readCount? value).isSome then .ok () else .error .valueValidation

structure Pending where
  option : OptionForm
  /-- The value, once it is there. -/
  value : Option Text
  deriving DecidableEq, Repr

structure Reading where
  given : Given
  pending : Option Pending
  /-- Whether two dashes have made all that follows positional. -/
  onlyPositional : Bool
  deriving DecidableEq, Repr

namespace Reading

def start : Reading where
  given := []
  pending := none
  onlyPositional := false

/-- What a flag that is given stands for. -/
def flagValue : Text := "true".toList

def give (reading : Reading) (name : ArgumentName) (value : Text) :
    Except ArgumentError Reading :=
  if reading.given.has name then .error .argumentConflict
  else .ok { reading with given := reading.given ++ [(name, value)] }

def take (reading : Reading) (option : OptionForm) (value : Option Text) :
    Except ArgumentError Reading :=
  match option.kind, value with
  | .help, _ => .error .displayHelp
  | .version, _ => .error .displayVersion
  | .flag, _ => reading.give option.name flagValue
  | .value _, none => .error .invalidValue
  | .value rule, some value => do
      let taken ← reading.give option.name value
      rule.check value
      return taken

def settle (reading : Reading) : Except ArgumentError Reading :=
  match reading.pending with
  | none => .ok reading
  | some pending => { reading with pending := none }.take pending.option pending.value

def awaitsValue (reading : Reading) : Bool :=
  match reading.pending with
  | some pending => pending.value.isNone
  | none => false

/-- Takes up an option with what is attached to it. One that needs a value and has
none attached waits for it. -/
def takeAttached (reading : Reading) (option : OptionForm) (attached : Option Text) :
    Except ArgumentError Reading :=
  match option.kind, attached with
  | .value _, none => do
      let settled ← reading.settle
      return { settled with pending := some { option, value := none } }
  | .value _, some value => do (← reading.settle).take option (some value)
  | _, some _ => .error .tooManyValues
  | _, none => do (← reading.settle).take option none

def readLong (form : CommandForm) (reading : Reading) (body : Text) :
    Except ArgumentError Reading :=
  let (long, attached) := Text.splitAtFirst (· == '=') body
  match form.findLong? long with
  | none => .error .unknownArgument
  | some option => reading.takeAttached option attached.tail?

def withoutEquals : Text → Text
  | '=' :: rest => rest
  | text => text

/-- Reads what follows one dash: flags, and perhaps an option with its value. -/
def readShort (form : CommandForm) (reading : Reading) : Text → Except ArgumentError Reading
  | [] => .ok reading
  | c :: rest =>
      match form.findShort? c with
      | none => .error .unknownArgument
      | some option =>
          match option.kind with
          | .value _ =>
              reading.takeAttached option (if rest = [] then none else some (withoutEquals rest))
          | _ => do readShort form (← reading.takeAttached option none) rest

/-- The error for one positional argument too many. It is about subcommands if the
argument resembles the name of one, and is not the name itself after two dashes. -/
def surplusError (form : CommandForm) (reading : Reading) (argument : Text) : ArgumentError :=
  if reading.onlyPositional && form.subcommands.contains argument then .unknownArgument
  else if form.subcommands.any (Similarity.resembles argument) then .invalidSubcommand
  else .unknownArgument

def readPositional (form : CommandForm) (reading : Reading) (argument : Text) :
    Except ArgumentError Reading :=
  if reading.given.has .tip then .error (surplusError form reading argument)
  else do
    let settled ← reading.settle
    settled.give (if reading.given.has .base then .tip else .base) argument

/-- Reads one argument that is not a subcommand. -/
def readArgument (form : CommandForm) (reading : Reading) (argument : Text) :
    Except ArgumentError Reading :=
  if reading.onlyPositional then reading.readPositional form argument
  else
    match argument, reading.pending with
    | ['-', '-'], _ => .ok { reading with onlyPositional := true }
    | '-' :: '-' :: body, _ => reading.readLong form body
    | '-' :: c :: body, _ => reading.readShort form (c :: body)
    | value, some { option, value := none } =>
        .ok { reading with pending := some { option, value := some value } }
    | _, _ => reading.readPositional form argument

/-- Reads arguments up to a subcommand, which is given with what follows it. -/
def readAll (form : CommandForm) (reading : Reading) :
    List Text → Except ArgumentError (Reading × Option (Text × List Text))
  | [] => .ok (reading, none)
  | argument :: rest =>
      if !reading.onlyPositional && !reading.awaitsValue && form.subcommands.contains argument then
        .ok (reading, some (argument, rest))
      else do readAll form (← reading.readArgument form argument) rest

/-- Takes the value of a variable for an option that is not given. -/
def takeVariable (environment : Text → Option Text) (reading : Reading) (option : OptionForm) :
    Except ArgumentError Reading :=
  if reading.given.has option.name then .ok reading
  else
    match option.standIn.bind environment with
    | none => .ok reading
    | some value => reading.take option (some value)

/-- At most one of the options for the source of the plan is given. -/
def hasOneSource (given : Given) : Bool :=
  (OptionForm.sources.countP fun option => given.has option.name) ≤ 1

/-- What is given once all arguments are read. -/
def finish (form : CommandForm) (environment : Text → Option Text) (needsBase : Bool)
    (reading : Reading) : Except ArgumentError Given := do
  let reading ← form.options.foldlM (takeVariable environment) (← reading.settle)
  if !hasOneSource reading.given then .error .argumentConflict
  else if needsBase && !reading.given.has .base then .error .missingArgument
  else return reading.given

end Reading

/-- A command line that is read: what is given to the command, and to its
subcommand if there is one. -/
structure ReadArguments where
  given : Given
  subcommand : Option (Text × Given)
  deriving DecidableEq, Repr

namespace ReadArguments

/-- Why nothing but help comes of the help subcommand. -/
def helpError (form : CommandForm) : List Text → ArgumentError
  | [] => .displayHelp
  | [name] => if form.subcommands.contains name then .displayHelp else .invalidSubcommand
  | _ => .invalidSubcommand

def ofSubcommand (form : CommandForm) (arguments : List Text) : Except ArgumentError Given := do
  let (reading, _) ← Reading.readAll form .start arguments
  reading.finish form (fun _ => none) true

/-- Reads a command line. The arguments of a subcommand are read to their end
before those in front of it are checked. -/
def ofArguments (environment : Text → Option Text) (arguments : List Text) :
    Except ArgumentError ReadArguments := do
  let form := CommandForm.report
  let (reading, subcommand) ← Reading.readAll form .start arguments
  match subcommand with
  | none => return { given := ← reading.finish form environment true, subcommand := none }
  | some (name, rest) =>
      if name = helpName then .error (helpError form rest)
      else
        let inner ← ofSubcommand (if name = checkName then .check else .plan) rest
        let given ← reading.finish form environment false
        return { given, subcommand := some (name, inner) }

end ReadArguments

end CuratedHistory
