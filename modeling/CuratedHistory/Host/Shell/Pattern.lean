import CuratedHistory.Host.Programs.Translating

namespace CuratedHistory.Host.Shell

/-! Patterns of a shell. A star stands for any octets, a question mark for one, and
brackets for one of a set; what is quoted means itself. -/

/-- An octet of a word that has been expanded. -/
structure Glyph where
  octet : Char
  quoted : Bool
  deriving DecidableEq, Repr

namespace Glyph

def isMark (glyph : Glyph) (mark : Char) : Bool :=
  glyph.octet = mark && !glyph.quoted

def octets (glyphs : List Glyph) : Octets :=
  glyphs.map (·.octet)

def all (quoted : Bool) (octets : Octets) : List Glyph :=
  octets.map fun octet => { octet, quoted }

end Glyph

inductive SetMember where
  | range (first last : Char)
  | members (kind : Programs.OctetClass)
  deriving DecidableEq, Repr

def SetMember.holds (member : SetMember) (c : Char) : Bool :=
  match member with
  | .range first last => first ≤ c && c ≤ last
  | .members kind => kind.holds c

inductive PatternItem where
  | one (c : Char)
  | any
  | many
  | oneOf (negated : Bool) (members : List SetMember)
  deriving DecidableEq, Repr

abbrev Pattern := List PatternItem

namespace Pattern

/-- Takes the meaning from what bare backslashes stand before. -/
def resolved : List Glyph → List Glyph
  | [] => []
  | glyph :: rest =>
      if glyph.isMark '\\' then
        match rest with
        | next :: after => { next with quoted := true } :: resolved after
        | [] => [{ glyph with quoted := true }]
      else glyph :: resolved rest

/-- A class such as [:alpha:] after its first bracket, and what follows. -/
def classOf? (glyphs : List Glyph) : Option (Programs.OctetClass × List Glyph) :=
  match glyphs with
  | colon :: rest =>
      if colon.octet = ':' then
        let name := rest.takeWhile fun glyph => glyph.octet.isAlpha
        match rest.dropWhile fun glyph => glyph.octet.isAlpha with
        | last :: bracket :: after =>
            if last.octet = ':' ∧ bracket.octet = ']' then
              (Programs.OctetClass.ofName? (Glyph.octets name)).map fun kind => (kind, after)
            else none
        | _ => none
      else none
  | [] => none

/-- The members of a set up to the bracket that closes it, which does not stand first.
The number bounds the glyphs. -/
def members? : Nat → Bool → List Glyph → Option (List SetMember × List Glyph)
  | 0, _, _ => none
  | _ + 1, _, [] => none
  | n + 1, first, glyph :: rest =>
      if glyph.isMark ']' ∧ !first then some ([], rest)
      else
        let found : SetMember × List Glyph :=
          match (if glyph.isMark '[' then classOf? rest else none) with
          | some (kind, after) => (.members kind, after)
          | none =>
              match rest with
              | dash :: last :: after =>
                  if dash.isMark '-' ∧ !last.isMark ']' then
                    (.range glyph.octet last.octet, after)
                  else (.range glyph.octet glyph.octet, rest)
              | _ => (.range glyph.octet glyph.octet, rest)
        (members? n false found.2).map fun (others, after) => (found.1 :: others, after)

/-- A set after its opening bracket, and what follows. -/
def set? (glyphs : List Glyph) : Option (PatternItem × List Glyph) :=
  match glyphs with
  | bang :: rest =>
      if bang.isMark '!' then
        (members? (rest.length + 1) true rest).map fun (members, after) =>
          (.oneOf true members, after)
      else
        (members? (glyphs.length + 1) true glyphs).map fun (members, after) =>
          (.oneOf false members, after)
  | [] => none

/-- The items of a pattern. The number bounds the glyphs. -/
def read : Nat → List Glyph → Pattern
  | 0, _ => []
  | _ + 1, [] => []
  | n + 1, glyph :: rest =>
      if glyph.isMark '*' then .many :: read n rest
      else if glyph.isMark '?' then .any :: read n rest
      else if glyph.isMark '[' then
        match set? rest with
        | some (item, after) => item :: read n after
        | none => .one '[' :: read n rest
      else .one glyph.octet :: read n rest

def ofGlyphs (glyphs : List Glyph) : Pattern :=
  read (glyphs.length + 1) (resolved glyphs)

def accepts : Pattern → Octets → Bool
  | [], octets => octets.isEmpty
  | .many :: rest, octets =>
      accepts rest octets ||
        match octets with
        | [] => false
        | _ :: after => accepts (.many :: rest) after
  | .any :: rest, octets =>
      match octets with
      | [] => false
      | _ :: after => accepts rest after
  | .one c :: rest, octets =>
      match octets with
      | [] => false
      | d :: after => c = d && accepts rest after
  | .oneOf negated members :: rest, octets =>
      match octets with
      | [] => false
      | c :: after => members.any (·.holds c) != negated && accepts rest after
termination_by pattern octets => (pattern.length, octets.length)

def isWild : PatternItem → Bool
  | .one _ => false
  | _ => true

/-- The octets without the shortest or longest start that the pattern stands for. -/
def trimStart (pattern : Pattern) (longest : Bool) (octets : Octets) : Octets :=
  let lengths := List.range (octets.length + 1)
  let tried := if longest then lengths.reverse else lengths
  match tried.find? fun n => pattern.accepts (octets.take n) with
  | some n => octets.drop n
  | none => octets

/-- The octets without the shortest or longest end that the pattern stands for. -/
def trimEnd (pattern : Pattern) (longest : Bool) (octets : Octets) : Octets :=
  let lengths := List.range (octets.length + 1)
  let tried := if longest then lengths else lengths.reverse
  match tried.find? fun n => pattern.accepts (octets.drop n) with
  | some n => octets.take n
  | none => octets

end Pattern

end CuratedHistory.Host.Shell
