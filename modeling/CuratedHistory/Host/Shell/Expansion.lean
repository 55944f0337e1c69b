import CuratedHistory.Host.Shell.State
import CuratedHistory.Host.Shell.Pattern
import CuratedHistory.Host.Shell.Arithmetic

namespace CuratedHistory.Host.Shell

/-! Words become texts or fields: parts are replaced by what they stand for, what comes
from a bare part is split, and fields that are patterns become the paths that they
stand for. -/

/-- What a word is made of once its parts are replaced. -/
inductive Piece where
  /-- An octet, and whether a separator there splits the word. -/
  | glyph (glyph : Glyph) (splits : Bool)
  /-- The border between two fields. -/
  | border
  /-- Keeps a field that is empty. -/
  | anchor
  /-- Gives up a field that has only anchors. -/
  | absence
  deriving DecidableEq, Repr

namespace Piece

def all (quoted splits : Bool) (octets : Octets) : List Piece :=
  octets.map fun octet => .glyph { octet, quoted } splits

def glyphs (pieces : List Piece) : List Glyph :=
  pieces.filterMap fun piece =>
    match piece with
    | .glyph found _ => some found
    | _ => none

def octets (pieces : List Piece) : Octets :=
  (glyphs pieces).map (·.octet)

end Piece

/-- The separators of fields; without the variable they are blanks and line feeds. -/
def State.separators (state : State) : Octets :=
  (state.value? "IFS".toList).getD " \t\n".toList

def State.joiner (state : State) : Octets :=
  match state.value? "IFS".toList with
  | none => [' ']
  | some separators => separators.take 1

def State.processNumber : Nat := 100

/-- The value of a parameter that has at most one. -/
def State.parameter? (state : State) (name : Octets) : Option Octets :=
  match name with
  | ['#'] => some (Decimal.digits state.parameters.length)
  | ['?'] => some (Decimal.digits state.status)
  | ['-'] => some state.options.reverse
  | ['$'] => some (Decimal.digits State.processNumber)
  | ['!'] => none
  | c :: _ =>
      if c.isDigit then
        let n := Decimal.value name
        if n = 0 then some state.title else state.parameters[n - 1]?
      else if name = "LINENO".toList ∧ state.dialect = .extended then
        some (Decimal.digits (state.line + 1 - state.functionStart.getD 1))
      else state.value? name
  | [] => none

/-- A field that is being put together, the latest glyph first. -/
structure FieldDraft where
  glyphs : List Glyph
  kept : Bool
  givenUp : Bool

namespace FieldDraft

def empty : FieldDraft where
  glyphs := []
  kept := false
  givenUp := false

def fields (draft : FieldDraft) : List (List Glyph) :=
  if draft.glyphs ≠ [] ∨ (draft.kept ∧ !draft.givenUp) then [draft.glyphs.reverse] else []

end FieldDraft

/-- Splits pieces into fields. Blank separators in a row split once; any other one ends
a field, even an empty one, together with the blanks around it. The flag tells that a
field has just been ended by blanks alone. -/
def splitFields (separators : Octets) :
    FieldDraft → Bool → List Piece → List (List Glyph)
  | draft, _, [] => draft.fields
  | draft, afterBlank, piece :: rest =>
      match piece with
      | .anchor => splitFields separators { draft with kept := true } false rest
      | .absence => splitFields separators { draft with givenUp := true } afterBlank rest
      | .border => draft.fields ++ splitFields separators .empty false rest
      | .glyph glyph splits =>
          if splits && separators.contains glyph.octet then
            if " \t\n".toList.contains glyph.octet then
              match draft.fields with
              | [] => splitFields separators draft afterBlank rest
              | fields => fields ++ splitFields separators .empty true rest
            else if afterBlank then splitFields separators .empty false rest
            else draft.glyphs.reverse :: splitFields separators .empty false rest
          else
            splitFields separators { draft with glyphs := glyph :: draft.glyphs } false rest

namespace Paths

/-- The names in a directory with the two that lead out of it, in order. -/
def names (files : FileSystem) (directory : Octets) : List Octets :=
  let path := if directory = [] then ['.'] else Octets.toText directory
  match files.locate path with
  | .error _ => []
  | .ok location =>
      if files.node? location == some .directory then
        let found := (files.nodes.filterMap fun entry =>
          if entry.1.length = location.length + 1 ∧ location.isPrefixOf entry.1 then
            entry.1.getLast?
          else none).map Octets.ofText
        ([['.'], ['.', '.']] ++ found).mergeSort Text.atMost
      else []

/-- Whether a name fits a pattern; a dot in front has to be written. -/
def fits (pattern : Pattern) (name : Octets) : Bool :=
  (name.head? != some '.' || pattern.head? == some (.one '.')) && pattern.accepts name

def steps : List Glyph → List (List Glyph)
  | [] => [[]]
  | glyph :: rest =>
      if glyph.octet = '/' then [] :: steps rest
      else
        match steps rest with
        | [] => [[glyph]]
        | step :: following => (glyph :: step) :: following

/-- The paths that fit, given the start of them that has been found. -/
def matchingFrom (files : FileSystem) : Octets → List (List Glyph) → List Octets
  | path, [] => [path]
  | path, step :: rest =>
      let pattern := Pattern.ofGlyphs step
      let border : Octets := if rest.isEmpty then [] else ['/']
      if pattern.any Pattern.isWild then
        ((names files path).filter (fits pattern)).flatMap fun name =>
          let found := path ++ name
          if rest.isEmpty ∨ files.isDirectory (Octets.toText found) then
            matchingFrom files (found ++ border) rest
          else []
      else
        let found := path ++ (Pattern.resolved step).map (·.octet)
        if rest.isEmpty ∧ !(step.isEmpty ∧ path ≠ []) ∧
            !files.pathExists (Octets.toText found) then []
        else matchingFrom files (found ++ border) rest

/-- The paths that a field stands for, or what it tells if it stands for none. -/
def matching (files : FileSystem) (field : List Glyph) : List Octets :=
  if (Pattern.ofGlyphs field).any Pattern.isWild then
    match matchingFrom files [] (steps field) with
    | [] => [Glyph.octets field]
    | paths => paths
  else [Glyph.octets field]

end Paths

abbrev OutputOf := Option Command → Run Octets

namespace Expansion

/-- How a word is expanded: whether it becomes fields, and whether its bare text was
written inside a part that is split. -/
structure Manner where
  splits : Bool
  inside : Bool

/-- The octets without the line feeds at the end and without zeros. -/
def outputText (octets : Octets) : Octets :=
  ((octets.filter (· != '\x00')).reverse.dropWhile (· == '\n')).reverse

def notSet (name : Octets) (orEmpty : Bool) : Octets :=
  name ++ ": parameter not set".toList ++ if orEmpty then " or null".toList else []

def allParameters (state : State) (manner : Manner) (quoted star : Bool) : List Piece :=
  if manner.splits ∧ !(quoted ∧ star) then
    if quoted ∧ state.parameters = [] then [.absence]
    else
      (state.parameters.map fun parameter =>
        (if quoted then [Piece.anchor] else []) ++ Piece.all quoted (!quoted) parameter).intersperse
          [.border] |>.flatten
  else Piece.all quoted false (Text.join state.joiner state.parameters)

def ofValue (manner : Manner) (quoted : Bool) (value : Octets) : List Piece :=
  (if quoted then [Piece.anchor] else []) ++ Piece.all quoted (manner.splits && !quoted) value

/-- What is left of a path that starts with a tilde in front of it. -/
def homePath (state : State) (octets : Octets) : Octets :=
  match octets, state.value? "HOME".toList with
  | '~' :: rest, some home =>
      if rest = [] ∨ rest.head? = some '/' then home ++ rest else octets
  | _, _ => octets

def withHome (state : State) (word : Word) : Word :=
  match word with
  | .text false octets :: rest =>
      let resolved := homePath state octets
      if resolved = octets then word
      else if rest.isEmpty ∨ octets.contains '/' then .text true resolved :: rest
      else word
  | _ => word

mutual

/-- The pieces of a part. The number bounds the nesting of words. -/
def part (output : OutputOf) : Nat → Manner → Part → Run (List Piece)
  | 0, _, _ => return []
  | n + 1, manner, item => do
      match item with
      | .text quoted octets =>
          if quoted then return .anchor :: Piece.all true false octets
          else return Piece.all false (manner.splits && manner.inside) octets
      | .output quoted commands =>
          let octets ← output commands
          return ofValue manner quoted (outputText octets)
      | .sum quoted expression =>
          let text ← joined output n expression
          let state ← get
          let bindings := state.bindings.filterMap fun entry =>
            entry.2.value.map fun value => (entry.1, value)
          match Sum.evaluate bindings text with
          | .error error => Run.fail (error.message text)
          | .ok (value, assigned) =>
              assigned.reverse.forM fun entry => Run.assign entry.1 entry.2
              return ofValue manner quoted (Decimal.signed value)
      | .parameter quoted name form word => parameter output n manner quoted name form word

def parameter (output : OutputOf) :
    Nat → Manner → Bool → Octets → ParameterForm → Word → Run (List Piece)
  | 0, _, _, _, _, _ => return []
  | n + 1, manner, quoted, name, form, word => do
      let state ← get
      let isAll := name = ['@'] ∨ name = ['*']
      let held : Option Octets :=
        if isAll then
          if state.parameters = [] then none else some (Text.join [' '] state.parameters)
        else state.parameter? name
      let whole : List Piece :=
        if isAll then allParameters state manner quoted (name = ['*'])
        else ofValue manner quoted (held.getD [])
      let lacks (ifEmpty : Bool) : Bool := held.isNone || (ifEmpty && held = some [])
      let other : Run (List Piece) := do
        let pieces ← row output n { manner with inside := !quoted } (withHome state word)
        return (if quoted then [Piece.anchor] else []) ++ pieces
      match form with
      | .value =>
          if held.isNone ∧ !isAll ∧ state.hasOption 'u' then Run.fail (notSet name false)
          else return whole
      | .size =>
          if held.isNone ∧ !isAll ∧ state.hasOption 'u' then Run.fail (notSet name false)
          else
            let counts := isAll ∧ state.dialect = .extended
            let size := if counts then state.parameters.length else (held.getD []).length
            return ofValue manner quoted (Decimal.digits size)
      | .fallback ifEmpty => if lacks ifEmpty then other else return whole
      | .alternative ifEmpty =>
          if lacks ifEmpty then return if quoted then [.anchor] else [] else other
      | .assignment ifEmpty =>
          if lacks ifEmpty then
            if isName name then
              let value ← joined output n (withHome state word)
              Run.assign name value
              return ofValue manner quoted value
            else Run.fail (name ++ ": bad variable name".toList)
          else return whole
      | .demand ifEmpty =>
          if lacks ifEmpty then
            if word.isEmpty then Run.fail (notSet name ifEmpty)
            else
              let text ← joined output n word
              Run.fail (name ++ ": ".toList ++ text)
          else return whole
      | .trim fromEnd longest =>
          if held.isNone ∧ !isAll ∧ state.hasOption 'u' then Run.fail (notSet name false)
          else
            let pieces ← row output n { splits := false, inside := false } (withHome state word)
            let pattern := Pattern.ofGlyphs (Piece.glyphs pieces)
            let value := held.getD []
            let kept :=
              if fromEnd then pattern.trimEnd longest value else pattern.trimStart longest value
            return ofValue manner quoted kept
      | .unknown => Run.fail "Bad substitution".toList

def row (output : OutputOf) : Nat → Manner → Word → Run (List Piece)
  | 0, _, _ => return []
  | _ + 1, _, [] => return []
  | n + 1, manner, first :: rest => do
      let pieces ← part output n manner first
      return pieces ++ (← row output n manner rest)

/-- The text of a word that is not split. -/
def joined (output : OutputOf) : Nat → Word → Run Octets
  | 0, _ => return []
  | n + 1, word => do
      return Piece.octets (← row output n { splits := false, inside := false } word)

end

def depth : Nat := 100000

def text (output : OutputOf) (word : Word) : Run Octets := do
  joined output depth (withHome (← get) word)

def pattern (output : OutputOf) (word : Word) : Run Pattern := do
  let pieces ← row output depth { splits := false, inside := false } (withHome (← get) word)
  return Pattern.ofGlyphs (Piece.glyphs pieces)

def fields (output : OutputOf) (word : Word) : Run (List Octets) := do
  let pieces ← row output depth { splits := true, inside := false } (withHome (← get) word)
  let state ← get
  let fields := splitFields state.separators .empty false pieces
  if state.hasOption 'f' then return fields.map Glyph.octets
  else return fields.flatMap (Paths.matching state.console.files)

def allFields (output : OutputOf) : List Word → Run (List Octets)
  | [] => return []
  | word :: rest => do
      let first ← fields output word
      return first ++ (← allFields output rest)

end Expansion

end CuratedHistory.Host.Shell
