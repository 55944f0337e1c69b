import CuratedHistory.Text.Decimal

namespace CuratedHistory

/-! JSON values, and the rules by which structures are read from them. A
structure is an object with its fields by name, or an array with its fields by
position. Fields of other names are passed over. A field that may be null may
also be absent from an object. -/

inductive Json where
  | null
  | boolean (value : Bool)
  | number (value : Int)
  /-- A number written with a fraction or an exponent, as it is written. -/
  | fraction (written : Text)
  | string (value : Text)
  | array (items : List Json)
  | object (members : List (Text × Json))
  deriving Repr, Inhabited

namespace Json

def ofNat (n : Nat) : Json :=
  .number n

def ofOption (value : Option Text) : Json :=
  match value with
  | some text => .string text
  | none => .null

/-- The value of a field, if the members name it once; `some none` if they do not
name it. -/
def member? (members : List (Text × Json)) (name : Text) : Option (Option Json) :=
  match members.filter (·.1 == name) with
  | [] => some none
  | [found] => some (some found.2)
  | _ => none

def fields? (names : List Text) : Json → Option (List (Option Json))
  | .object members => names.mapM (member? members)
  | .array items => if items.length = names.length then some (items.map some) else none
  | _ => none

/-- The tag of a tagged structure and the structure without it. -/
def tagged? (name : Text) : Json → Option (Text × Json)
  | .object members =>
      match member? members name with
      | some (some (.string tag)) => some (tag, .object (members.filter (·.1 != name)))
      | _ => none
  | .array (.string tag :: items) => some (tag, .array items)
  | _ => none

/-- A word of an enumeration, alone or as the only field of an object, whose
value is then null. -/
def word? : Json → Option Text
  | .string word => some word
  | .object [(word, .null)] => some word
  | _ => none

/-- A word of an enumeration in a structure with a tag, where an empty object does
for null. -/
def taggedWord? : Json → Option Text
  | .object [(word, .object [])] => some word
  | json => json.word?

def text? : Json → Option Text
  | .string value => some value
  | _ => none

def countLimit : Nat := 18446744073709551616

/-- A count that fits into 64 bits. -/
def count? : Json → Option Nat
  | .number (.ofNat n) => if n < countLimit then some n else none
  | _ => none

def list? {α : Type} (decode : Json → Option α) : Json → Option (List α)
  | .array items => items.mapM decode
  | _ => none

def required? {α : Type} (decode : Json → Option α) : Option Json → Option α
  | some value => decode value
  | none => none

def nullable? {α : Type} (decode : Json → Option α) : Option Json → Option (Option α)
  | some .null => some none
  | some value => (decode value).map some
  | none => some none

end Json

end CuratedHistory
