import CuratedHistory.Plan.Template
import CuratedHistory.Programs.Converter

namespace CuratedHistory

/-! Editing a plan. The editor is shown a buffer; what it leaves is parsed. A plan
that is refused is shown again with comments on the error, a bounded number of
times. -/

/-- How an editor session ends: with the file as it is left, if it still exists. -/
structure EditorExit where
  left : Option Bytes
  status : Nat
  deriving DecidableEq, Repr

/-- An editor by its command, as a function of the number of the session, counted
from zero, and of the buffer that it is shown. -/
structure Editor where
  command : Text
  session : Nat → Bytes → EditorExit

inductive EditError where
  | buffer (cause : FileError)
  | editorFailed (command : Text) (status : Nat)
  | rejected (attempts : Nat) (error : PlanError)
  deriving DecidableEq, Repr

def EditError.message : EditError → Text
  | .buffer cause => "Plan buffer I/O failed: ".toList ++ cause.message
  | .editorFailed command status =>
      "Editor '".toList ++ command ++ "' exited with ".toList ++ (Ending.exited status).text
  | .rejected attempts error =>
      "Plan still invalid after ".toList ++ Decimal.digits attempts ++ " attempt(s): ".toList ++
        error.message

namespace Editor

/-- The command that the environment asks for: the first of the two variables that
is set and not blank. -/
def commandOf (visual editor : Option Text) : Text :=
  (([visual, editor].filterMap id).find? fun command => Text.trim command ≠ []).getD
    "vi".toList

end Editor

/-- The text that a session leaves, if the session succeeds. -/
def EditorExit.text (command : Text) (exit : EditorExit) : Except EditError Text :=
  if exit.status ≠ 0 then .error (.editorFailed command exit.status)
  else
    match exit.left with
    | none => .error (.buffer .notFound)
    | some bytes =>
        match Utf8.decode? bytes with
        | none => .error (.buffer .notText)
        | some text => .ok text

/-- What came of editing, with the buffers shown and the texts parsed, in order. -/
structure Edited (α : Type) where
  shown : List Bytes
  parsed : List Text
  result : Except EditError α

/-- Sessions from a numbered one on, until a plan is accepted or no more are left
after the current one. -/
def editFrom {α : Type} (editor : Editor) (parse : Text → Except PlanError α)
    (attempts more number : Nat) (buffer : Text) : Edited α :=
  let shown := Utf8.encode buffer
  match (editor.session number shown).text editor.command with
  | .error error => { shown := [shown], parsed := [], result := .error error }
  | .ok text =>
      match parse text with
      | .ok value => { shown := [shown], parsed := [text], result := .ok value }
      | .error error =>
          match more with
          | 0 =>
              { shown := [shown], parsed := [text]
                result := .error (.rejected attempts error) }
          | more + 1 =>
              let next :=
                editFrom editor parse attempts more (number + 1) (withErrorComments text error)
              { next with shown := shown :: next.shown, parsed := text :: next.parsed }

/-- Edits a plan in at most the given number of sessions, and in one at least. -/
def editPlan {α : Type} (editor : Editor) (attempts : Nat)
    (parse : Text → Except PlanError α) (initial : Text) : Edited α :=
  let attempts := max attempts 1
  editFrom editor parse attempts (attempts - 1) 0 initial

/-- One session of a scripted editor: it writes a text over the file, appends to it,
deletes it, and ends with a status. -/
structure EditStep where
  replacement : Option Bytes
  appended : Bytes
  removes : Bool
  /-- The number that the session asks to end with. -/
  requested : Int
  deriving DecidableEq, Repr

def requestLimit : Int := 2147483648

/-- The status of a session that asks to end with a number: its last byte, or the one
for misuse if the number cannot be asked for. -/
def statusFor (requested : Int) : Nat :=
  if 0 ≤ requested ∧ requested < requestLimit then requested.toNat % 256 else 2

def EditStep.run (step : EditStep) (shown : Bytes) : EditorExit where
  left := if step.removes then none else some (step.replacement.getD shown ++ step.appended)
  status := statusFor step.requested

/-- The editor whose sessions follow a script; after its end it changes nothing. -/
def Editor.ofSteps (command : Text) (steps : List EditStep) : Editor where
  command := command
  session number shown :=
    match steps[number]? with
    | some step => step.run shown
    | none => { left := some shown, status := 0 }

def Editor.missing (command : Text) : Editor where
  command := command
  session _ shown := { left := some shown, status := 127 }

end CuratedHistory
