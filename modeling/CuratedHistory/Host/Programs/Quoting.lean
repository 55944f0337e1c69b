import CuratedHistory.Host.Text.Octets

namespace CuratedHistory.Host.Quoting

/-! How programs show words in what they say: between quotes with backslashes, or in
the form in which a shell reads the word back. -/

def octal (c : Char) : Octets :=
  '\\' :: [c.toNat / 64 % 8, c.toNat / 8 % 8, c.toNat % 8].map fun digit =>
    Char.ofNat (48 + digit)

def isPrintable (c : Char) : Bool :=
  32 ≤ c.toNat && c.toNat < 127

/-- The letter that stands for a control character after a backslash. -/
def controlLetter? (c : Char) : Option Char :=
  [('\x07', 'a'), ('\x08', 'b'), ('\x0c', 'f'), ('\n', 'n'), ('\r', 'r'), ('\t', 't'),
    ('\x0b', 'v')].lookup c

/-- A character that cannot be printed, after a backslash. -/
def escaped (c : Char) : Octets :=
  match controlLetter? c with
  | some letter => ['\\', letter]
  | none => octal c

/-- A word between single quotes, with backslashes before what is not plain. -/
def between (word : Octets) : Octets :=
  '\'' :: word.flatMap (fun c =>
    if c = '\'' ∨ c = '\\' then ['\\', c]
    else if isPrintable c then [c]
    else escaped c) ++ ['\'']

def isShellSpecial (first : Bool) (c : Char) : Bool :=
  " !\"$&()*;<=>[^\x60|?\\'".toList.contains c || (first && (c = '#' || c = '~')) ||
    !isPrintable c

def isPlainBetweenDoubles (first : Bool) (c : Char) : Bool :=
  c.isAlphanum || "%+,-./:]_ '".toList.contains c || (first && (c = '#' || c = '~'))

def allFrom (test : Bool → Char → Bool) : Octets → Bool
  | [] => true
  | c :: rest => test true c && rest.all (test false)

/-- The inside of single quotes, which are left for what they cannot hold. -/
def shellInside : Bool → Octets → Octets
  | _, [] => []
  | inEscape, c :: rest =>
      if isPrintable c then
        (if inEscape then ['\'', '\''] else []) ++
          (if c = '\'' then ['\'', '\\', '\'', '\''] else [c]) ++ shellInside false rest
      else
        (if inEscape then [] else ['\'', '$', '\'']) ++ escaped c ++ shellInside true rest

def forShell (word : Octets) : Octets :=
  if word.contains '\'' ∧ allFrom isPlainBetweenDoubles word then '"' :: word ++ ['"']
  else '\'' :: shellInside false word ++ ['\'']

def whereNeeded (word : Octets) : Octets :=
  if word = [] ∨ !allFrom (fun first c => !isShellSpecial first c) word ∨
      word = ['\x7b'] ∨ word = ['\x7d'] then
    forShell word
  else word

def asName (word : Octets) : Octets :=
  if word.contains ':' then forShell word else whereNeeded word

end CuratedHistory.Host.Quoting
