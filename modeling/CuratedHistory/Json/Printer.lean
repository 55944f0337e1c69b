import CuratedHistory.Json.Basic

namespace CuratedHistory.Json

/-! JSON text over several lines, two spaces for each level. -/

def hexDigit (n : Nat) : Char :=
  if n < 10 then Char.ofNat (48 + n) else Char.ofNat (87 + n)

/-- A character of a quoted text; only what JSON does not allow there is escaped. -/
def escape (c : Char) : Text :=
  if c = '"' then ['\\', '"']
  else if c = '\\' then ['\\', '\\']
  else if c = '\n' then ['\\', 'n']
  else if c = '\r' then ['\\', 'r']
  else if c = '\t' then ['\\', 't']
  else if c = '\x08' then ['\\', 'b']
  else if c = '\x0c' then ['\\', 'f']
  else if c.toNat < 32 then
    ['\\', 'u', '0', '0', hexDigit (c.toNat / 16), hexDigit (c.toNat % 16)]
  else [c]

def quoted (text : Text) : Text :=
  '"' :: text.flatMap escape ++ ['"']

def newLine (level : Nat) : Text :=
  '\n' :: List.replicate (2 * level) ' '

mutual

def pretty (level : Nat) : Json → Text
  | .null => "null".toList
  | .boolean value => if value then "true".toList else "false".toList
  | .number value => Decimal.signed value
  | .fraction written => written
  | .string value => quoted value
  | .array [] => "[]".toList
  | .array (item :: rest) =>
      '[' :: newLine (level + 1) ++ pretty (level + 1) item ++ prettyItems (level + 1) rest ++
        newLine level ++ [']']
  | .object [] => "\x7b\x7d".toList
  | .object (member :: rest) =>
      '\x7b' :: newLine (level + 1) ++ prettyMember (level + 1) member ++
        prettyMembers (level + 1) rest ++ newLine level ++ ['\x7d']

/-- The items of an array after its first one. -/
def prettyItems (level : Nat) : List Json → Text
  | [] => []
  | item :: rest => ',' :: newLine level ++ pretty level item ++ prettyItems level rest

def prettyMember (level : Nat) : Text × Json → Text
  | (name, value) => quoted name ++ ": ".toList ++ pretty level value

/-- The fields of an object after its first one. -/
def prettyMembers (level : Nat) : List (Text × Json) → Text
  | [] => []
  | member :: rest => ',' :: newLine level ++ prettyMember level member ++ prettyMembers level rest

end

end CuratedHistory.Json
