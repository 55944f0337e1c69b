import CuratedHistory.Host.Text.Octets

namespace CuratedHistory.Host.Shell

/-! Commands as a shell reads them. A word is a row of parts: octets that mean
themselves, and parts that are replaced when the command runs. A part in quotes is
neither split into fields nor read as a pattern. -/

/-- What is done with the value of a parameter; a form that falls back may also do so
for an empty value. -/
inductive ParameterForm where
  | value
  | size
  | fallback (ifEmpty : Bool)
  | assignment (ifEmpty : Bool)
  | demand (ifEmpty : Bool)
  | alternative (ifEmpty : Bool)
  | trim (fromEnd longest : Bool)
  | unknown
  deriving DecidableEq, Repr

/-- How a file is opened for a redirection. -/
inductive Opening where
  | read
  | write
  /-- Writes over a file that is there, whatever the options say. -/
  | overwrite
  | append
  | readWrite
  deriving DecidableEq, Repr

mutual

inductive Part where
  | text (quoted : Bool) (octets : Octets)
  | parameter (quoted : Bool) (name : Octets) (form : ParameterForm) (word : List Part)
  /-- The output of commands. -/
  | output (quoted : Bool) (commands : Option Command)
  /-- The value of an arithmetic expression. -/
  | sum (quoted : Bool) (expression : List Part)

inductive Redirect where
  | file (descriptor : Nat) (opening : Opening) (path : List Part)
  | duplicate (descriptor : Nat) (target : List Part)
  /-- A text that stands after the command, by its number. -/
  | document (descriptor : Nat) (number : Nat)

inductive Command where
  | simple (line : Nat) (assignments : List (Octets × List Part)) (words : List (List Part))
      (redirects : List Redirect)
  | pipeline (commands : List Command)
  | background (command : Command)
  | inverted (command : Command)
  | both (first second : Command)
  | either (first second : Command)
  | sequence (first second : Command)
  | subshell (line : Nat) (body : Command) (redirects : List Redirect)
  | redirected (line : Nat) (body : Command) (redirects : List Redirect)
  | conditional (condition body : Command) (otherwise : Option Command)
  | loop (endsOn : Bool) (condition body : Command)
  | each (line : Nat) (name : Octets) (words : List (List Part)) (body : Command)
  | choice (line : Nat) (word : List Part)
      (cases : List (List (List Part) × Option Command))
  | function (line : Nat) (name : Octets) (body : Command)

end

abbrev Word := List Part

/-- What a redirection to a document refers to: documents by their numbers. -/
abbrev Documents := List (Nat × Word)

end CuratedHistory.Host.Shell
