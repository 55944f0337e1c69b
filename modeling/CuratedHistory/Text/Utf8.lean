import CuratedHistory.Text.Basic

namespace CuratedHistory

/-! Bytes and the texts that they encode in UTF-8. Reading goes piece by piece:
a piece is a character, or the longest start of a character that cannot be
completed. A strict reader refuses the second kind, a lenient one writes the
replacement character for it. -/

abbrev Bytes := List UInt8

def lineFeed : UInt8 := 10

namespace Utf8

def encode (text : Text) : Bytes :=
  text.flatMap String.utf8EncodeChar

def isContinuation (byte : UInt8) : Bool :=
  0x80 ≤ byte && byte ≤ 0xBF

/-- The second bytes that a lead byte admits, which keeps out overlong forms,
surrogates and numbers past the last code point. -/
def admitsSecond (lead second : UInt8) : Bool :=
  if lead = 0xE0 then 0xA0 ≤ second && second ≤ 0xBF
  else if lead = 0xED then 0x80 ≤ second && second ≤ 0x9F
  else if lead = 0xF0 then 0x90 ≤ second && second ≤ 0xBF
  else if lead = 0xF4 then 0x80 ≤ second && second ≤ 0x8F
  else isContinuation second

def low (byte : UInt8) : Nat :=
  byte.toNat % 64

/-- The first piece of a non-empty byte string and the bytes after it. -/
def piece (lead : UInt8) (rest : Bytes) : Option Char × Bytes :=
  if lead < 0x80 then (some (Char.ofNat lead.toNat), rest)
  else if 0xC2 ≤ lead ∧ lead ≤ 0xDF then
    match rest with
    | second :: rest₂ =>
        if isContinuation second then
          (some (Char.ofNat ((lead.toNat - 0xC0) * 64 + low second)), rest₂)
        else (none, rest)
    | [] => (none, rest)
  else if 0xE0 ≤ lead ∧ lead ≤ 0xEF then
    match rest with
    | second :: rest₂ =>
        if admitsSecond lead second then
          match rest₂ with
          | third :: rest₃ =>
              if isContinuation third then
                (some (Char.ofNat
                  ((lead.toNat - 0xE0) * 4096 + low second * 64 + low third)), rest₃)
              else (none, rest₂)
          | [] => (none, rest₂)
        else (none, rest)
    | [] => (none, rest)
  else if 0xF0 ≤ lead ∧ lead ≤ 0xF4 then
    match rest with
    | second :: rest₂ =>
        if admitsSecond lead second then
          match rest₂ with
          | third :: rest₃ =>
              if isContinuation third then
                match rest₃ with
                | fourth :: rest₄ =>
                    if isContinuation fourth then
                      (some (Char.ofNat ((lead.toNat - 0xF0) * 262144 + low second * 4096 +
                        low third * 64 + low fourth)), rest₄)
                    else (none, rest₃)
                | [] => (none, rest₃)
              else (none, rest₂)
          | [] => (none, rest₂)
        else (none, rest)
    | [] => (none, rest)
  else (none, rest)

theorem piece_length_le (lead : UInt8) (rest : Bytes) :
    (piece lead rest).2.length ≤ rest.length := by
  unfold piece
  repeat' split
  all_goals simp only [List.length_cons]
  all_goals omega

/-- The pieces of a byte string in order, `none` for each one that is no character. -/
def decodePieces : Bytes → List (Option Char)
  | [] => []
  | lead :: rest => (piece lead rest).1 :: decodePieces (piece lead rest).2
termination_by bytes => bytes.length
decreasing_by
  have shorter := piece_length_le lead rest
  simp only [List.length_cons]
  omega

/-- How many bytes a first byte announces, zero if it starts nothing. -/
def announcedLength (lead : UInt8) : Nat :=
  if lead < 0x80 then 1
  else if lead < 0xC0 then 0
  else if lead < 0xE0 then 2
  else if lead < 0xF0 then 3
  else if lead < 0xF8 then 4
  else 0

/-- The bytes up to the first one that does not start a row as long as it announces.
Overlong forms and numbers that are no code points are not told from characters. -/
def wellShapedStart : Bytes → Bytes
  | [] => []
  | lead :: rest =>
      let more := announcedLength lead - 1
      let row := rest.take more
      if announcedLength lead = 0 ∨ row.length < more ∨ !row.all isContinuation then []
      else lead :: row ++ wellShapedStart (rest.drop more)
termination_by bytes => bytes.length
decreasing_by
  simp only [List.length_drop, List.length_cons]
  omega

/-- The text that the bytes encode, if every piece is a character. -/
def decode? (bytes : Bytes) : Option Text :=
  (decodePieces bytes).mapM id

/-- The text of the bytes, with a replacement character for each other piece. -/
def decodeLenient (bytes : Bytes) : Text :=
  (decodePieces bytes).map (·.getD '\uFFFD')

end Utf8

end CuratedHistory
