import CuratedHistory.Text.Utf8

namespace CuratedHistory.Host

/-! Bytes as characters: a byte is the character that has its number. Programs take
their words and their input in this form, so that nothing they meet has to be text. -/

abbrev Octets := List Char

namespace Octets

def ofBytes (bytes : Bytes) : Octets :=
  bytes.map fun byte => Char.ofNat byte.toNat

def toBytes (octets : Octets) : Bytes :=
  octets.map fun c => UInt8.ofNat c.toNat

/-- The bytes of a text in UTF-8. -/
def ofText (text : Text) : Octets :=
  ofBytes (Utf8.encode text)

/-- The text that the bytes encode, with a replacement for what is no text. -/
def toText (octets : Octets) : Text :=
  Utf8.decodeLenient (toBytes octets)

def ofString (text : String) : Octets :=
  ofText text.toList

end Octets

end CuratedHistory.Host
