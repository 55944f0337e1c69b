import CuratedHistory.Host.Programs.Options
import CuratedHistory.Host.Programs.Quoting

namespace CuratedHistory.Host.Programs

/-! Translating, squeezing and deleting bytes. A set is written as a row of items:
bytes, ranges, classes, and a byte repeated, for a number of times or to fill up. -/

inductive OctetClass where
  | alnum
  | alpha
  | blank
  | cntrl
  | digit
  | graph
  | lower
  | print
  | punct
  | space
  | upper
  | xdigit
  deriving DecidableEq, Repr

namespace OctetClass

def named : List (String × OctetClass) :=
  [("alnum", .alnum), ("alpha", .alpha), ("blank", .blank), ("cntrl", .cntrl), ("digit", .digit),
    ("graph", .graph), ("lower", .lower), ("print", .print), ("punct", .punct), ("space", .space),
    ("upper", .upper), ("xdigit", .xdigit)]

def ofName? (name : Octets) : Option OctetClass :=
  (named.find? (·.1.toList == name)).map Prod.snd

def holds (kind : OctetClass) (c : Char) : Bool :=
  match kind with
  | .alnum => c.isAlphanum
  | .alpha => c.isAlpha
  | .blank => c = ' ' || c = '\t'
  | .cntrl => c.toNat < 32 || c.toNat = 127
  | .digit => c.isDigit
  | .graph => 32 < c.toNat && c.toNat < 127
  | .lower => c.isLower
  | .print => 32 ≤ c.toNat && c.toNat < 127
  | .punct => 32 < c.toNat && c.toNat < 127 && !c.isAlphanum
  | .space => c = ' ' || (9 ≤ c.toNat && c.toNat ≤ 13)
  | .upper => c.isUpper
  | .xdigit => isHexDigit c

end OctetClass

/-- All bytes in their order. -/
def allOctets : Octets :=
  (List.range 256).map Char.ofNat

def OctetClass.members (kind : OctetClass) : Octets :=
  allOctets.filter kind.holds

inductive SetItem where
  | one (c : Char)
  | range (first last : Char)
  | members (kind : OctetClass)
  | equivalent (c : Char)
  | repeated (c : Char) (count : Nat)
  /-- As often as it takes to make the set as long as the other one. -/
  | filling (c : Char)
  deriving DecidableEq, Repr

/-- What is wrong with how a set is written. -/
inductive SetError where
  | emptyClass
  | emptyEquivalence
  | unknownClass (name : Octets)
  | longEquivalence (operand : Octets)
  | badCount (digits : Octets)
  | reversedRange (first last : Char)
  deriving DecidableEq, Repr

namespace SetError

def shown (c : Char) : Octets :=
  if c = '\\' then ['\\', '\\']
  else if Quoting.isPrintable c then [c]
  else Quoting.escaped c

def message : SetError → Octets
  | .emptyClass => "missing character class name '[::]'".toList
  | .emptyEquivalence => "missing equivalence class character '[==]'".toList
  | .unknownClass name => "invalid character class ".toList ++ Quoting.between name
  | .longEquivalence operand =>
      operand.flatMap shown ++ ": equivalence class operand must be a single character".toList
  | .badCount digits =>
      "invalid repeat count ".toList ++ Quoting.between digits ++ " in [c*n] construct".toList
  | .reversedRange first last =>
      "range-endpoints of '".toList ++ shown first ++ ['-'] ++ shown last ++
        "' are in reverse collating sequence order".toList

end SetError

/-- A byte of a set as it is written, and whether a backslash takes its meaning away. -/
structure SetOctet where
  value : Char
  plain : Bool
  deriving DecidableEq, Repr

namespace SetOctet

def isMark (octet : SetOctet) (mark : Char) : Bool :=
  octet.value = mark && !octet.plain

def isOctal (c : Char) : Bool :=
  '0' ≤ c && c ≤ '7'

def octalValue (digits : Octets) : Nat :=
  digits.foldl (fun total c => 8 * total + (c.toNat - 48)) 0

/-- The digits of an octal number of up to three digits that fits a byte. -/
def octalDigits (text : Octets) : Octets :=
  let digits := (text.take 3).takeWhile isOctal
  if octalValue digits < 256 then digits else digits.take 2

theorem octalDigits_length_le (text : Octets) : (octalDigits text).length ≤ text.length := by
  have whole := (List.takeWhile_prefix isOctal (l := text.take 3)).length_le
  simp only [List.length_take] at whole
  simp only [octalDigits]
  split
  · omega
  · simp only [List.length_take]; omega

def letter (c : Char) : Char :=
  match c with
  | 'a' => '\x07'
  | 'b' => '\x08'
  | 'f' => '\x0c'
  | 'n' => '\n'
  | 'r' => '\r'
  | 't' => '\t'
  | 'v' => '\x0b'
  | c => c

/-- The bytes of a set with its backslashes resolved. -/
def ofWord : Octets → List SetOctet
  | [] => []
  | ['\\'] => [⟨'\\', false⟩]
  | '\\' :: c :: rest =>
      let digits := octalDigits (c :: rest)
      if digits = [] then ⟨letter c, true⟩ :: ofWord rest
      else ⟨Char.ofNat (octalValue digits), true⟩ :: ofWord ((c :: rest).drop digits.length)
  | c :: rest => ⟨c, false⟩ :: ofWord rest
termination_by word => word.length
decreasing_by
  all_goals simp only [List.length_drop, List.length_cons]
  all_goals omega

end SetOctet

namespace SetItem

/-- The part of a class up to the mark that closes it, and what follows. -/
def closed? (mark : Char) : List SetOctet → Option (Octets × List SetOctet)
  | [] => none
  | first :: rest =>
      match rest with
      | second :: after =>
          if first.isMark mark ∧ second.isMark ']' then some ([], after)
          else (closed? mark rest).map fun (inside, after) => (first.value :: inside, after)
      | [] => none

/-- Whether a star, digits and a bracket follow, as in a repetition. -/
def looksRepeated (octets : List SetOctet) : Bool :=
  match octets with
  | star :: rest =>
      star.isMark '*' &&
        ((rest.dropWhile (·.value.isDigit)).head?.any (·.isMark ']'))
  | [] => false

/-- The count of a repetition; a leading zero makes it octal. -/
def count? (digits : Octets) : Option Nat :=
  if digits.head? = some '0' then
    if digits.all SetOctet.isOctal then some (SetOctet.octalValue digits) else none
  else Decimal.read? digits

/-- A repetition after its opening bracket, and what follows. -/
def repetition? (octets : List SetOctet) :
    Except SetError (Option (SetItem × List SetOctet)) :=
  match octets with
  | c :: star :: rest =>
      if star.isMark '*' then
        let digits := (rest.takeWhile fun octet => !octet.isMark ']').map (·.value)
        match rest.dropWhile fun octet => !octet.isMark ']' with
        | [] => .ok none
        | _ :: after =>
            if digits = [] then .ok (some (.filling c.value, after))
            else
              match count? digits with
              | none => .error (.badCount digits)
              | some 0 => .ok (some (.filling c.value, after))
              | some n => if n < 1 <<< 63 then .ok (some (.repeated c.value n, after))
                  else .error (.badCount digits)
      else .ok none
  | _ => .ok none

/-- A class after its opening bracket and mark, and what follows. -/
def classOf? (mark : Char) (octets : List SetOctet) :
    Except SetError (Option (SetItem × List SetOctet)) :=
  match closed? mark octets with
  | none => .ok none
  | some (inside, after) =>
      if inside = [] then .error (if mark = ':' then .emptyClass else .emptyEquivalence)
      else if mark = ':' then
        match OctetClass.ofName? inside with
        | some kind => .ok (some (.members kind, after))
        | none =>
            if looksRepeated octets then .ok none else .error (.unknownClass inside)
      else
        match inside with
        | [c] => .ok (some (.equivalent c, after))
        | _ => if looksRepeated octets then .ok none else .error (.longEquivalence inside)

/-- What stands in brackets, if the octets start with it. -/
def bracketed? (octets : List SetOctet) :
    Except SetError (Option (SetItem × List SetOctet)) :=
  match octets with
  | opening :: mark :: rest =>
      if opening.isMark '[' then
        let kind :=
          if mark.isMark ':' ∨ mark.isMark '=' then classOf? mark.value rest else .ok none
        match kind with
        | .error error => .error error
        | .ok (some found) => .ok (some found)
        | .ok none => repetition? (mark :: rest)
      else .ok none
  | _ => .ok none

/-- The items of a set. The number bounds them. -/
def read : Nat → List SetOctet → Except SetError (List SetItem)
  | 0, _ => .ok []
  | n + 1, octets =>
      match octets with
      | first :: second :: third :: rest =>
          match bracketed? octets with
          | .error error => .error error
          | .ok (some (item, after)) => (read n after).map (item :: ·)
          | .ok none =>
              if second.isMark '-' then
                if third.value.toNat < first.value.toNat then
                  .error (.reversedRange first.value third.value)
                else (read n rest).map (.range first.value third.value :: ·)
              else (read n (second :: third :: rest)).map (.one first.value :: ·)
      | _ => .ok (octets.map fun octet => .one octet.value)

def ofWord (word : Octets) : Except SetError (List SetItem) :=
  read (word.length + 1) (SetOctet.ofWord word)

/-- The bytes of an item; one that fills up has none yet. -/
def octets : SetItem → Octets
  | .one c => [c]
  | .range first last =>
      (List.range (last.toNat + 1 - first.toNat)).map fun n => Char.ofNat (first.toNat + n)
  | .members kind => kind.members
  | .equivalent c => [c]
  | .repeated c count => List.replicate (min count 65536) c
  | .filling _ => []

def isCase : SetItem → Bool
  | .members .lower | .members .upper => true
  | _ => false

def isClass : SetItem → Bool
  | .members _ => true
  | _ => false

def isOtherClass (item : SetItem) : Bool :=
  item.isClass && !item.isCase

def isEquivalence : SetItem → Bool
  | .equivalent _ => true
  | _ => false

def isFilling : SetItem → Bool
  | .filling _ => true
  | _ => false

/-- The length of an item, which is not bound to fit in memory. -/
def size : SetItem → Nat
  | .repeated _ count => count
  | item => item.octets.length

end SetItem

/-- A set as it is written. -/
structure OctetSet where
  items : List SetItem

namespace OctetSet

def ofWord (word : Octets) : Except SetError OctetSet :=
  (SetItem.ofWord word).map OctetSet.mk

def octets (set : OctetSet) : Octets :=
  set.items.flatMap SetItem.octets

def size (set : OctetSet) : Nat :=
  set.items.foldl (fun total item => total + item.size) 0

def fillings (set : OctetSet) : Nat :=
  (set.items.filter SetItem.isFilling).length

/-- The set with an item that fills up repeated a number of times. -/
def filled (set : OctetSet) (count : Nat) : OctetSet where
  items := set.items.map fun item =>
    match item with
    | .filling c => .repeated c count
    | item => item

/-- Where the items start, with the items. -/
def placed : Nat → List SetItem → List (Nat × SetItem)
  | _, [] => []
  | place, item :: rest => (place, item) :: placed (place + item.size) rest

/-- Whether each class of a case up to the end of the source stands at the place of
one in the source. -/
def alignedWith (source target : OctetSet) : Bool :=
  (placed 0 target.items).all fun (place, item) =>
    !item.isCase || source.size < place ||
      (placed 0 source.items).any fun (other, counterpart) =>
        other = place && counterpart.isCase

end OctetSet

/-- What is wrong with sets that are each well written. -/
inductive SetUseError where
  | fillsSource
  | fillsTwice
  | equivalenceInTarget
  | classInTarget
  | misaligned
  | emptyTarget
  | endsWithClass
  | complementedClass
  | fillsUntranslated
  deriving DecidableEq, Repr

def SetUseError.message : SetUseError → Octets
  | .fillsSource => "the [c*] repeat construct may not appear in string1".toList
  | .fillsTwice => "only one [c*] repeat construct may appear in string2".toList
  | .equivalenceInTarget =>
      "[=c=] expressions may not appear in string2 when translating".toList
  | .classInTarget =>
      ("when translating, the only character classes that may appear in\n" ++
        "string2 are 'upper' and 'lower'").toList
  | .misaligned => "misaligned [:upper:] and/or [:lower:] construct".toList
  | .emptyTarget => "when not truncating set1, string2 must be non-empty".toList
  | .endsWithClass =>
      ("when translating with string1 longer than string2,\n" ++
        "the latter string must not end with a character class").toList
  | .complementedClass =>
      ("when translating with complemented character classes,\n" ++
        "string2 must map all characters in the domain to one").toList
  | .fillsUntranslated =>
      "the [c*] construct may appear in string2 only when translating".toList

structure Translation where
  complements : Bool
  deletes : Bool
  squeezes : Bool
  truncates : Bool

namespace Translation

def forms : List OptionForm :=
  [.letterOnly 'A' .absent, .both 'c' "complement" .absent, .letterOnly 'C' .absent,
    .both 'd' "delete" .absent, .both 's' "squeeze-repeats" .absent,
    .both 't' "truncate-set1" .absent]

def withOption (translation : Translation) (key : String) : Translation :=
  match key with
  | "complement" | "C" => { translation with complements := true }
  | "delete" => { translation with deletes := true }
  | "squeeze-repeats" => { translation with squeezes := true }
  | "truncate-set1" => { translation with truncates := true }
  | _ => translation

def ofOptions (options : List (String × Octets)) : Translation :=
  options.foldl (fun translation option => translation.withOption option.1)
    { complements := false, deletes := false, squeezes := false, truncates := false }

/-- The bytes that the first set stands for. -/
def source (translation : Translation) (first : OctetSet) : Octets :=
  if translation.complements then allOctets.filter fun c => !first.octets.contains c
  else first.octets

/-- The target stretched to the length of the source by its last byte. -/
def stretched (length : Nat) (target : Octets) : Octets :=
  match target.getLast? with
  | none => []
  | some last => target ++ List.replicate (length - target.length) last

/-- Checks the two sets of a translation, and gives the target for the source. -/
def target (translation : Translation) (first second : OctetSet) : Except SetUseError Octets :=
  let length := (translation.source first).length
  let second := second.filled (length - second.size)
  let short := second.octets.length < length && !translation.truncates
  if second.items.any SetItem.isEquivalence then .error .equivalenceInTarget
  else if second.items.any SetItem.isOtherClass then .error .classInTarget
  else if !translation.complements && !first.alignedWith second then .error .misaligned
  else if short ∧ second.octets = [] then .error .emptyTarget
  else if short ∧ second.items.getLast?.any SetItem.isClass then .error .endsWithClass
  else
    let target :=
      if translation.truncates then second.octets else stretched length second.octets
    if translation.complements ∧ first.items.any SetItem.isClass ∧
        !(target.length = length ∧ target.all fun c => some c == target.head?) then
      .error .complementedClass
    else .ok target

/-- The byte for another one: the one at the last place of the source that it has. -/
def translate (pairs : List (Char × Char)) (c : Char) : Char :=
  (pairs.lookup c).getD c

/-- Rows of one byte in a set, each cut to one. -/
def squeeze (set : Octets) : Option Char → Octets → Octets
  | _, [] => []
  | before, c :: rest =>
      if before = some c ∧ set.contains c then squeeze set before rest
      else c :: squeeze set (some c) rest

def run (translation : Translation) (first : OctetSet) (second : Option OctetSet)
    (input : Octets) : Except SetUseError Octets :=
  let source := translation.source first
  let translates := !translation.deletes && second.isSome
  if first.fillings ≠ 0 then .error .fillsSource
  else if second.any (1 < ·.fillings) then .error .fillsTwice
  else if !translates && second.any (·.fillings ≠ 0) then .error .fillsUntranslated
  else
    match second with
    | none =>
        if translation.deletes then .ok (input.filter fun c => !source.contains c)
        else .ok (squeeze source none input)
    | some second =>
        if translation.deletes then
          .ok (squeeze second.octets none (input.filter fun c => !source.contains c))
        else
          (translation.target first second).map fun target =>
            let pairs := (source.zip target).reverse
            let translated := input.map (translate pairs)
            if translation.squeezes then squeeze target none translated else translated

def operandProblem? (translation : Translation) (operands : List Octets) :
    Option (List Octets) :=
  let least := if translation.deletes = translation.squeezes then 2 else 1
  let most := if translation.deletes ∧ !translation.squeezes then 1 else 2
  match operands with
  | [] => some ["missing operand".toList]
  | first :: _ =>
      if operands.length < least then
        some ["missing operand after ".toList ++ Quoting.between first,
          (if translation.squeezes then
            "Two strings must be given when both deleting and squeezing repeats."
          else "Two strings must be given when translating.").toList]
      else
        match operands.drop most with
        | [] => none
        | extra :: _ =>
            some (("extra operand ".toList ++ Quoting.between extra) ::
              if operands.length = 2 then
                ["Only one string may be given when deleting without squeezing repeats.".toList]
              else [])

end Translation

def tr : Program := fun name words console =>
  let scan := OptionScan.ofWords Translation.forms false words
  match scan.given with
  | .error text => console.failUsage name text 1
  | .ok options =>
      let translation := Translation.ofOptions options
      match translation.operandProblem? scan.operands with
      | some lines => console.failUsage name (Text.join ['\n'] lines) 1
      | none =>
          match scan.operands.mapM OctetSet.ofWord with
          | .error error => console.fail name error.message 1
          | .ok sets =>
              let (input, console) := console.readAll
              match sets with
              | first :: rest =>
                  match translation.run first rest.head? input with
                  | .error error => console.fail name error.message 1
                  | .ok output => (console.print output, 0)
              | [] => (console, 0)

end CuratedHistory.Host.Programs
