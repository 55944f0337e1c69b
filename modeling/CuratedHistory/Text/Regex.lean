import CuratedHistory.Text.Utf8

namespace CuratedHistory

/-! Regular expressions over bytes. A match is the first one in the order in which
the choices of an expression are tried: the first alternative before the second, and
as many repetitions as possible unless the expression asks for few. -/

/-- A set of bytes, one bit for each. -/
structure ByteSet where
  bits : Nat
  deriving DecidableEq, Repr

namespace ByteSet

def empty : ByteSet := ⟨0⟩

def all : ByteSet := ⟨1 <<< 256 - 1⟩

def single (byte : UInt8) : ByteSet :=
  ⟨1 <<< byte.toNat⟩

/-- The bytes from one to another, both included. -/
def range (first last : UInt8) : ByteSet :=
  ⟨(1 <<< (last.toNat + 1) - 1) - (1 <<< first.toNat - 1)⟩

def union (left right : ByteSet) : ByteSet :=
  ⟨left.bits ||| right.bits⟩

def complement (set : ByteSet) : ByteSet :=
  ⟨all.bits - set.bits⟩

def contains (set : ByteSet) (byte : UInt8) : Bool :=
  set.bits.testBit byte.toNat

def ofList (bytes : List UInt8) : ByteSet :=
  bytes.foldl (fun set byte => set.union (single byte)) empty

def withCases (set : ByteSet) : ByteSet :=
  (List.range 26).foldl
    (fun (found : ByteSet) (n : Nat) =>
      let lower := UInt8.ofNat (97 + n)
      let upper := UInt8.ofNat (65 + n)
      if set.contains lower || set.contains upper then
        found.union (ofList [lower, upper])
      else found)
    set

end ByteSet

/-- Places that an expression can ask for. -/
inductive Anchor where
  | textStart
  | textStop
  /-- The stop of the text, or its last byte if that is a line feed. -/
  | lastLineStop
  | lineStart
  | lineStop
  | wordEdge
  | noWordEdge
  deriving DecidableEq, Repr

/-- Which number of repetitions is tried first, and whether another one is tried. -/
inductive Eagerness where
  | greedy
  | reluctant
  | possessive
  deriving DecidableEq, Repr

inductive Regex where
  | nothing
  | oneOf (set : ByteSet)
  | sequence (first second : Regex)
  | either (first second : Regex)
  | repeated (body : Regex) (least : Nat) (most : Option Nat) (eagerness : Eagerness)
  | group (number : Nat) (body : Regex)
  /-- What a group has matched. -/
  | same (number : Nat) (anyCase : Bool)
  | standing (anchor : Anchor)
  /-- What follows, or what precedes, without being taken. -/
  | look (ahead wanted : Bool) (body : Regex)
  | atomic (body : Regex)
  deriving Repr

namespace Regex

/-- A place in a text, and what the groups have matched. -/
structure Place where
  /-- The bytes before the place, the nearest one first. -/
  before : Bytes
  after : Bytes
  groups : List (Nat × Bytes)
  deriving Repr

abbrev Continuation := Place → Option Place

def wordSet : ByteSet :=
  ((ByteSet.range 48 57).union (ByteSet.range 65 90)).union
    ((ByteSet.range 97 122).union (ByteSet.single 95))

namespace Place

/-- The place after the next byte. -/
def advance (place : Place) : Place :=
  match place.after with
  | [] => place
  | byte :: after => { place with before := byte :: place.before, after }

def advanceBy (place : Place) (count : Nat) : Place :=
  { place with
    before := (place.after.take count).reverse ++ place.before
    after := place.after.drop count }

def goBack (place : Place) (count : Nat) : Place :=
  { place with
    before := place.before.drop count
    after := (place.before.take count).reverse ++ place.after }

def isWord (byte : Option UInt8) : Bool :=
  (byte.map wordSet.contains).getD false

def atWordEdge (place : Place) : Bool :=
  isWord place.before.head? != isWord place.after.head?

def isAt (place : Place) : Anchor → Bool
  | .textStart => place.before.isEmpty
  | .textStop => place.after.isEmpty
  | .lastLineStop => place.after.isEmpty || place.after == [lineFeed]
  | .lineStart => place.before.isEmpty || place.before.head? == some lineFeed
  | .lineStop => place.after.isEmpty || place.after.head? == some lineFeed
  | .wordEdge => place.atWordEdge
  | .noWordEdge => !place.atWordEdge

def groupText? (place : Place) (number : Nat) : Option Bytes :=
  (place.groups.find? (·.1 == number)).map Prod.snd

end Place

/-- Repeats a step. A repetition that takes nothing is the last one. The fuel is more
than the number of repetitions that are needed or that take something. -/
def iterate (step : Place → Continuation → Option Place) (least : Nat) (most : Option Nat)
    (greedy : Bool) : Nat → Nat → Place → Continuation → Option Place
  | 0, _, _, _ => none
  | fuel + 1, count, place, continuation =>
      let again (_ : Unit) : Option Place :=
        if most.any (· ≤ count) then none
        else
          step place fun reached =>
            if least ≤ count && reached.after.length == place.after.length then none
            else iterate step least most greedy fuel (count + 1) reached continuation
      let done (_ : Unit) : Option Place :=
        if count < least then none else continuation place
      if greedy then
        match again () with
        | some reached => some reached
        | none => done ()
      else
        match done () with
        | some reached => some reached
        | none => again ()

def lowerByte (byte : UInt8) : UInt8 :=
  if 65 ≤ byte && byte ≤ 90 then byte + 32 else byte

/-- Matches an expression from a place on, and then whatever is to follow. -/
def run : Regex → Place → Continuation → Option Place
  | .nothing, place, continuation => continuation place
  | .oneOf set, place, continuation =>
      match place.after with
      | byte :: _ => if set.contains byte then continuation place.advance else none
      | [] => none
  | .sequence first second, place, continuation =>
      first.run place fun reached => second.run reached continuation
  | .either first second, place, continuation =>
      match first.run place continuation with
      | some reached => some reached
      | none => second.run place continuation
  | .repeated body least most eagerness, place, continuation =>
      let fuel := place.after.length + least + 2
      match eagerness with
      | .greedy => iterate body.run least most true fuel 0 place continuation
      | .reluctant => iterate body.run least most false fuel 0 place continuation
      | .possessive =>
          (iterate body.run least most true fuel 0 place some).bind continuation
  | .group number body, place, continuation =>
      body.run place fun reached =>
        let length := place.after.length - reached.after.length
        continuation { reached with
          groups := (number, place.after.take length) :: reached.groups }
  | .same number anyCase, place, continuation =>
      match place.groupText? number with
      | none => none
      | some text =>
          let found := place.after.take text.length
          if found == text || (anyCase && found.map lowerByte == text.map lowerByte) then
            continuation (place.advanceBy text.length)
          else none
  | .standing anchor, place, continuation =>
      if place.isAt anchor then continuation place else none
  | .look ahead wanted body, place, continuation =>
      let found :=
        if ahead then (body.run place some).isSome
        else
          (List.range (place.before.length + 1)).any fun count =>
            (body.run (place.goBack count) fun reached =>
              if reached.after.length = place.after.length then some reached
              else none).isSome
      if found = wanted then continuation place else none
  | .atomic body, place, continuation => (body.run place some).bind continuation

/-- A match: the bytes before it, in it and after it, and those of its groups. -/
structure Match where
  before : Bytes
  found : Bytes
  after : Bytes
  groups : List (Nat × Bytes)
  deriving Repr

/-- The first match at or after a place, which is given with the bytes to come. -/
def searchFrom (regex : Regex) (before : Bytes) : Bytes → Option Match
  | [] => matchAt before []
  | byte :: rest =>
      match matchAt before (byte :: rest) with
      | some found => some found
      | none => regex.searchFrom (byte :: before) rest
where
  /-- A match that starts at a place. -/
  matchAt (before after : Bytes) : Option Match :=
    (regex.run ⟨before, after, []⟩ some).map fun reached =>
      { before := before.reverse
        found := after.take (after.length - reached.after.length)
        after := reached.after
        groups := reached.groups }

def search (regex : Regex) (subject : Bytes) : Option Match :=
  regex.searchFrom [] subject

def matchesSomewhere (regex : Regex) (subject : Bytes) : Bool :=
  (regex.search subject).isSome

end Regex

end CuratedHistory
