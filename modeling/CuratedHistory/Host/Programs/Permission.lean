import CuratedHistory.Host.Programs.Filing
import CuratedHistory.Host.Text.Numeral

namespace CuratedHistory.Host.Programs

/-! Changing the permissions of files, by a number or by clauses on kinds of users. -/

namespace Permission

/-- The bits of all permissions. -/
def all : Nat := 4095

/-- The permissions that a kind of user has, with the bit that belongs to it. -/
def userBits : Char → Nat
  | 'u' => 0o4700
  | 'g' => 0o2070
  | 'o' => 0o1007
  | 'a' => all
  | _ => 0

/-- The permissions that a letter names for everyone; one letter names running only for
directories and for what somebody may run already. -/
def letterBits? (runs : Bool) : Char → Option Nat
  | 'r' => some 0o444
  | 'w' => some 0o222
  | 'x' => some 0o111
  | 'X' => some (if runs then 0o111 else 0)
  | 's' => some 0o6000
  | 't' => some 0o1000
  | _ => none

/-- The permissions of a kind of user, for everyone. -/
def copied? (mode : Nat) (letter : Char) : Option Nat :=
  let spread (bits : Nat) : Nat := bits * 64 + bits * 8 + bits
  match letter with
  | 'u' => some (spread (mode / 64 % 8))
  | 'g' => some (spread (mode / 8 % 8))
  | 'o' => some (spread (mode % 8))
  | _ => none

/-- The mode after the signs of a clause, each with the letters after it. The number
bounds the signs. -/
def applySigns (who mask : Nat) : Nat → Octets → Nat → Option Nat
  | 0, _, _ => none
  | n + 1, text, mode =>
      match text with
      | [] => some mode
      | sign :: rest =>
          let letters := rest.takeWhile fun c => !"+-=".toList.contains c
          let runs := mode &&& 0o111 ≠ 0
          let bits? : Option Nat :=
            match letters with
            | [letter] =>
                match copied? mode letter with
                | some bits => some bits
                | none => letterBits? runs letter
            | letters =>
                letters.foldlM (fun bits letter => (letterBits? runs letter).map (bits ||| ·)) 0
          match bits? with
          | none => none
          | some bits =>
              let bits := bits &&& who &&& (all - mask)
              let next? : Option Nat :=
                match sign with
                | '+' => some (mode ||| bits)
                | '-' => some (mode &&& (all - bits))
                | '=' => some ((mode &&& (all - who)) ||| bits)
                | _ => none
              next?.bind fun next => applySigns who mask n (rest.drop letters.length) next

/-- The mode after a clause: kinds of users, then signs. Without any kind all are meant,
less what new files lack. -/
def applyClause (mode : Nat) (clause : Octets) : Option Nat :=
  let kinds := clause.takeWhile fun c => "ugoa".toList.contains c
  let signs := clause.drop kinds.length
  if signs = [] then none
  else
    let who := if kinds = [] then all else (kinds.map userBits).foldl (· ||| ·) 0
    applySigns who (if kinds = [] then 0o022 else 0) (signs.length + 1) signs mode

def apply (word : Octets) (mode : Nat) : Option Nat :=
  if word ≠ [] ∧ Numeral.row 8 word = word then
    let n := Numeral.value 8 word
    if n ≤ all then some n else none
  else (Text.pieces ',' word).foldlM applyClause mode

/-- Whether a word is a mode and no option although it starts with a dash. -/
def isMode (word : Octets) : Bool :=
  match word with
  | '-' :: rest => rest ≠ [] && rest.all fun c => "rwxXstugo,+-=".toList.contains c
  | _ => false

end Permission

def chmod : Program := fun name words console =>
  let modes := words.filter Permission.isMode
  let scan := OptionScan.ofWords
    [.both 'R' "recursive" .absent, .both 'v' "verbose" .absent, .both 'c' "changes" .absent,
      .both 'f' "silent" .absent, .nameOnly "quiet" .absent, .nameOnly "reference" .required]
    true (words.filter fun word => !Permission.isMode word)
  match scan.given with
  | .error text => console.failUsage name text 1
  | .ok options =>
      match modes.take 1 ++ scan.operands with
      | [] => console.failUsage name "missing operand".toList 1
      | [word] =>
          console.failUsage name ("missing operand after ".toList ++ Quoting.between word) 1
      | word :: paths =>
          if (Permission.apply word 0).isNone then
            console.failUsage name ("invalid mode: ".toList ++ Quoting.between word) 1
          else
            console.forEach paths fun path console =>
              match Filing.find console path with
              | .error cause =>
                  if options.any fun option => option.1 == "silent" || option.1 == "quiet" then
                    (console, 1)
                  else
                    console.fail name ("cannot access ".toList ++ Quoting.forShell path ++
                      ": ".toList ++ cause.plainMessage) 1
              | .ok found =>
                  match found.node with
                  | .file mode content =>
                      let mode := (Permission.apply word mode).getD mode
                      ({ console with
                        files := console.files.put found.location (.file mode content) }, 0)
                  | .directory | .sink => (console, 0)

end CuratedHistory.Host.Programs
