import CuratedHistory.Host.Text.Octets
import CuratedHistory.Text.RegexReader

namespace CuratedHistory.Host

/-! Regular expressions in the two forms that line tools read. In the basic form a
backslash gives parentheses, bars and counts their meaning, in the extended form it
takes it away. Of the matches at a place the longest one counts. -/

inductive RegexForm where
  | basic
  | extended
  deriving DecidableEq, Repr

inductive RegexFault where
  | openBracket
  | openGroup
  | closedGroup
  | openCount
  | badCount
  | badRange
  | badClass
  | classOutside
  | badReference
  | lastBackslash
  | nothingToRepeat
  | tooBig
  deriving DecidableEq, Repr

def RegexFault.message : RegexFault → String
  | .openBracket => "Unmatched [, [^, [:, [., or [="
  | .openGroup => "Unmatched ( or \\("
  | .closedGroup => "Unmatched ) or \\)"
  | .openCount => "Unmatched \\\x7b"
  | .badCount => "Invalid content of \\\x7b\\\x7d"
  | .badRange => "Invalid range end"
  | .badClass => "Invalid character class name"
  | .classOutside => "character class syntax is [[:space:]], not [:space:]"
  | .badReference => "Invalid back reference"
  | .lastBackslash => "Trailing backslash"
  | .nothingToRepeat => "Invalid preceding regular expression"
  | .tooBig => "Regular expression too big"

/-- How expressions are read. -/
structure RegexManner where
  form : RegexForm
  anyCase : Bool
  /-- Whether what may be repeated nothing before it is refused. -/
  strict : Bool
  /-- Whether ends of lines inside the text count as ends. -/
  byLine : Bool
  deriving DecidableEq, Repr

namespace RegexForm

/-- What an expression is made of. -/
inductive Sign where
  | open_
  | close
  | bar
  | count (least : Nat) (most : Option Nat)
  | item (regex : Regex)

def ofSet (manner : RegexManner) (set : ByteSet) : Regex :=
  .oneOf (if manner.anyCase then set.withCases else set)

def ofOctet (manner : RegexManner) (c : Char) : Regex :=
  ofSet manner (.single (Regex.byteOf c))

/-- The members of a class after its bracket and what follows it. The number bounds
them, and the flag tells that none has been read yet. -/
def members : Nat → Bool → ByteSet → Octets → Except RegexFault (ByteSet × Octets)
  | 0, _, _, _ => .error .openBracket
  | _ + 1, _, _, [] => .error .openBracket
  | n + 1, isFirst, set, c :: rest =>
      if c = ']' ∧ !isFirst then .ok (set, rest)
      else if c = '[' ∧ rest.head? = some ':' then
        let name := (rest.drop 1).takeWhile (· != ':')
        match rest.drop (name.length + 1) with
        | ':' :: ']' :: rest =>
            match Regex.namedSet? name with
            | some named => members n false (set.union named) rest
            | none => .error .badClass
        | _ => .error .openBracket
      else
        let (first, rest) :=
          match c, rest with
          | '[', sign :: only :: last :: ']' :: after =>
              if (sign = '.' ∨ sign = '=') ∧ last = sign then (only, after) else (c, rest)
          | _, _ => (c, rest)
        match rest with
        | '-' :: last :: after =>
            if last = ']' then members n false (set.union (.single (Regex.byteOf first))) rest
            else if last.toNat < first.toNat then .error .badRange
            else
              members n false
                (set.union (.range (Regex.byteOf first) (Regex.byteOf last))) after
        | _ => members n false (set.union (.single (Regex.byteOf first))) rest

/-- A class after its bracket. -/
def bracket (manner : RegexManner) (text : Octets) : Except RegexFault (Regex × Octets) := do
  let negated := text.head? = some '^'
  let inside := if negated then text.drop 1 else text
  let (set, rest) ← members (inside.length + 1) true .empty inside
  let taken := text.take (text.length - rest.length - 1)
  if taken.length > 2 ∧ taken.head? = some ':' ∧ taken.getLast? = some ':' then
    .error .classOutside
  else
    let set := if manner.anyCase then set.withCases else set
    return (.oneOf (if negated then set.complement else set), rest)

def mostRepetitions : Nat := 32767

def count? (form : RegexForm) (text : Octets) : Except RegexFault (Nat × Option Nat × Octets) :=
  let least := text.takeWhile Char.isDigit
  let rest := text.drop least.length
  let (most, rest) : Option Nat × Octets :=
    match rest with
    | ',' :: after =>
        let digits := after.takeWhile Char.isDigit
        (if digits = [] then none else some (Decimal.value digits), after.drop digits.length)
    | rest => (some (Decimal.value least), rest)
  let hasComma := (text.drop least.length).head? = some ','
  let finish (rest : Octets) : Except RegexFault (Nat × Option Nat × Octets) :=
    if least = [] ∧ !hasComma then .error .badCount
    else if most.any (· < Decimal.value least) then .error .badCount
    else if mostRepetitions < Decimal.value least ∨ most.any (mostRepetitions < ·) then
      .error .tooBig
    else .ok (Decimal.value least, most, rest)
  match form, rest with
  | _, [] => .error .openCount
  | .extended, '\x7d' :: rest => finish rest
  | .basic, '\\' :: '\x7d' :: rest => finish rest
  | .basic, ['\\'] => .error .openCount
  | _, _ => .error .badCount

/-- What a letter stands for after a backslash, if it stands for a place or a class. -/
def letter? (manner : RegexManner) (c : Char) : Option Regex :=
  match c with
  | 'w' => some (.oneOf Regex.wordSet)
  | 'W' => some (.oneOf Regex.wordSet.complement)
  | 's' => some (.oneOf Regex.blankSet)
  | 'S' => some (.oneOf Regex.blankSet.complement)
  | 'b' => some (.standing .wordEdge)
  | 'B' => some (.standing .noWordEdge)
  | '<' =>
      some (.sequence (.standing .wordEdge) (.look true true (.oneOf Regex.wordSet)))
  | '>' =>
      some (.sequence (.standing .wordEdge) (.look false true (.oneOf Regex.wordSet)))
  | '\x60' => some (.standing .textStart)
  | '\'' => some (.standing .textStop)
  | 'n' => some (ofOctet manner '\n')
  | _ => none

def start (manner : RegexManner) : Regex :=
  .standing (if manner.byLine then .lineStart else .textStart)

def stop (manner : RegexManner) : Regex :=
  .standing (if manner.byLine then .lineStop else .textStop)

def endsHere (form : RegexForm) (text : Octets) : Bool :=
  match form, text with
  | _, [] => true
  | .basic, '\\' :: c :: _ => c = ')' || c = '|'
  | .extended, c :: _ => c = ')' || c = '|'
  | _, _ => false

/-- A count in the extended form, where a brace that begins none means itself. -/
def braceOrCount (manner : RegexManner) (rest : Octets) : Except RegexFault (Sign × Octets) :=
  match count? .extended rest with
  | .ok (least, most, rest) => .ok (.count least most, rest)
  | .error fault =>
      let begins := rest.head?.any fun c => c.isDigit || c = ','
      if manner.strict ∨ (begins ∧ fault = .badCount ∧
          (rest.dropWhile fun c => c.isDigit || c = ',').head? = some '\x7d') ∨
          fault = .tooBig then
        .error fault
      else .ok (.item (ofOctet manner '\x7b'), rest)

/-- The next sign of an expression; the flag tells that it starts an alternative. -/
def next (manner : RegexManner) (atStart : Bool) (text : Octets) :
    Except RegexFault (Option (Sign × Octets)) :=
  let plain (c : Char) (rest : Octets) : Except RegexFault (Option (Sign × Octets)) :=
    .ok (some (.item (ofOctet manner c), rest))
  match text with
  | [] => .ok none
  | '[' :: rest => (bracket manner rest).map fun found => some (.item found.1, found.2)
  | '.' :: rest => .ok (some (.item (.oneOf .all), rest))
  | '*' :: rest =>
      if atStart ∧ manner.form = .basic then plain '*' rest
      else .ok (some (.count 0 none, rest))
  | '^' :: rest =>
      if atStart ∨ manner.form = .extended then .ok (some (.item (start manner), rest))
      else plain '^' rest
  | '$' :: rest =>
      if manner.form = .extended ∨ endsHere .basic rest then
        .ok (some (.item (stop manner), rest))
      else plain '$' rest
  | ['\\'] => .error .lastBackslash
  | '\\' :: c :: rest =>
      match manner.form, c with
      | .basic, '(' => .ok (some (.open_, rest))
      | .basic, ')' => .ok (some (.close, rest))
      | .basic, '|' => .ok (some (.bar, rest))
      | .basic, '+' => if atStart then plain c rest else .ok (some (.count 1 none, rest))
      | .basic, '?' => if atStart then plain c rest else .ok (some (.count 0 (some 1), rest))
      | .basic, '\x7b' =>
          if atStart then
            if manner.strict then .error .nothingToRepeat else plain c rest
          else (count? .basic rest).map fun (least, most, rest) => some (.count least most, rest)
      | _, _ =>
          if '1' ≤ c ∧ c ≤ '9' then
            .ok (some (.item (.same (c.toNat - 48) manner.anyCase), rest))
          else
            match letter? manner c with
            | some regex => .ok (some (.item regex, rest))
            | none => plain c rest
  | c :: rest =>
      match manner.form, c with
      | .extended, '(' => .ok (some (.open_, rest))
      | .extended, ')' => .ok (some (.close, rest))
      | .extended, '|' => .ok (some (.bar, rest))
      | .extended, '+' => .ok (some (.count 1 none, rest))
      | .extended, '?' => .ok (some (.count 0 (some 1), rest))
      | .extended, '\x7b' => (braceOrCount manner rest).map some
      | _, _ => plain c rest

/-- An expression that is being read: what is left, how many groups have begun, and
which ones have ended. -/
structure Draft where
  rest : Octets
  groups : Nat
  ended : List Nat

mutual

/-- Alternatives up to the end of a group. The number bounds the signs. -/
def alternatives (manner : RegexManner) : Nat → Nat → Draft → Except RegexFault (Regex × Draft)
  | 0, _, _ => .error .tooBig
  | n + 1, depth, draft => do
      let (first, draft) ← branch manner n depth true .nothing none draft
      match next manner true draft.rest with
      | .ok (some (.bar, rest)) =>
          let (second, draft) ← alternatives manner n depth { draft with rest }
          return (.either first second, draft)
      | _ => return (first, draft)

/-- The items of an alternative after those before, the last of which can be repeated.
The flag tells that there is none yet. -/
def branch (manner : RegexManner) :
    Nat → Nat → Bool → Regex → Option Regex → Draft → Except RegexFault (Regex × Draft)
  | 0, _, _, _, _, _ => .error .tooBig
  | n + 1, depth, atStart, before, last?, draft => do
      let done : Regex :=
        match last? with
        | some last => .sequence before last
        | none => before
      match ← next manner atStart draft.rest with
      | none => return (done, draft)
      | some (.bar, _) => return (done, draft)
      | some (.close, rest) =>
          if depth = 0 then
            if manner.form = .basic ∨ manner.strict then .error .closedGroup
            else branch manner n depth false done (some (ofOctet manner ')')) { draft with rest }
          else return (done, draft)
      | some (.open_, rest) =>
          let number := draft.groups + 1
          let (inside, after) ←
            alternatives manner n (depth + 1) { draft with rest, groups := number }
          match next manner false after.rest with
          | .ok (some (.close, rest)) =>
              branch manner n depth false done (some (.group number inside))
                { after with rest, ended := number :: after.ended }
          | _ => .error .openGroup
      | some (.count least most, rest) =>
          match last? with
          | some last =>
              branch manner n depth false before
                (some (.repeated last least most .greedy)) { draft with rest }
          | none =>
              if manner.strict then .error .nothingToRepeat
              else branch manner n depth atStart before none { draft with rest }
      | some (.item regex, rest) =>
          match regex with
          | .same number _ =>
              if draft.ended.contains number then
                branch manner n depth false done (some regex) { draft with rest }
              else .error .badReference
          | .standing .textStart | .standing .lineStart =>
              branch manner n depth true (.sequence done regex) none { draft with rest }
          | _ => branch manner n depth false done (some regex) { draft with rest }

end

/-- The expression that a text describes, and how many groups it has. -/
def read (manner : RegexManner) (text : Octets) : Except RegexFault (Regex × Nat) := do
  let (regex, draft) ←
    alternatives manner (2 * text.length + 4) 0 { rest := text, groups := 0, ended := [] }
  if draft.rest = [] then return (regex, draft.groups) else .error .closedGroup

end RegexForm

end CuratedHistory.Host

namespace CuratedHistory.Regex

/-- Whether the first match at a place may not be the longest one. -/
def hasChoices : Regex → Bool
  | .nothing | .oneOf _ | .same _ _ | .standing _ | .look _ _ _ => false
  | .sequence first second => first.hasChoices || second.hasChoices
  | .either _ _ => true
  | .repeated body _ _ _ =>
      match body with
      | .oneOf _ => false
      | _ => true
  | .group _ body | .atomic body => body.hasChoices

def longestAt? (regex : Regex) (place : Place) : Option Place :=
  match regex.run place some with
  | none => none
  | some first =>
      if !regex.hasChoices then some first
      else
        some (((List.range first.after.length).findSome? fun left =>
          regex.run place fun reached =>
            if reached.after.length = left then some reached else none).getD first)

/-- The first of the longest matches at or after a place. -/
def longestFrom? (regex : Regex) (before : Bytes) : Bytes → Option Match
  | [] => found? before []
  | byte :: rest =>
      match found? before (byte :: rest) with
      | some found => some found
      | none => longestFrom? regex (byte :: before) rest
where
  /-- The longest match that starts at a place. -/
  found? (before after : Bytes) : Option Match :=
    (regex.longestAt? ⟨before, after, []⟩).map fun reached =>
      { before := before.reverse
        found := after.take (after.length - reached.after.length)
        after := reached.after
        groups := reached.groups }

end CuratedHistory.Regex
