import CuratedHistory.Host.Programs.Options
import CuratedHistory.Host.Programs.Quoting

namespace CuratedHistory.Host.Programs

/-! Copying operands to the output, with marks for what cannot be seen. -/

structure CopyMarks where
  numbersAll : Bool
  numbersFilled : Bool
  squeezes : Bool
  showsEnds : Bool
  showsTabs : Bool
  showsControls : Bool

namespace CopyMarks

def plain : CopyMarks where
  numbersAll := false
  numbersFilled := false
  squeezes := false
  showsEnds := false
  showsTabs := false
  showsControls := false

def withOption (marks : CopyMarks) (key : String) : CopyMarks :=
  match key with
  | "show-all" => { marks with showsControls := true, showsEnds := true, showsTabs := true }
  | "number-nonblank" => { marks with numbersFilled := true }
  | "e" => { marks with showsControls := true, showsEnds := true }
  | "show-ends" => { marks with showsEnds := true }
  | "number" => { marks with numbersAll := true }
  | "squeeze-blank" => { marks with squeezes := true }
  | "t" => { marks with showsControls := true, showsTabs := true }
  | "show-tabs" => { marks with showsTabs := true }
  | "show-nonprinting" => { marks with showsControls := true }
  | _ => marks

def forms : List OptionForm :=
  [.both 'A' "show-all" .absent, .both 'b' "number-nonblank" .absent, .letterOnly 'e' .absent,
    .both 'E' "show-ends" .absent, .both 'n' "number" .absent, .both 's' "squeeze-blank" .absent,
    .letterOnly 't' .absent, .both 'T' "show-tabs" .absent, .letterOnly 'u' .absent,
    .both 'v' "show-nonprinting" .absent]

/-- A byte of seven bits, with a caret for a control character. -/
def caret (n : Nat) : Octets :=
  if n < 32 then ['^', Char.ofNat (n + 64)]
  else if n = 127 then ['^', '?']
  else [Char.ofNat n]

def shown (marks : CopyMarks) (c : Char) : Octets :=
  if c = '\t' then (if marks.showsTabs then ['^', 'I'] else [c])
  else if !marks.showsControls then [c]
  else if c.toNat < 128 then caret c.toNat
  else ['M', '-'] ++ caret (c.toNat - 128)

/-- The inside of a line. A carriage return before an end that is shown is shown. -/
def shownLine (marks : CopyMarks) (line : Octets) (ended : Bool) : Octets :=
  if marks.showsEnds ∧ ended ∧ !marks.showsControls ∧ line.getLast? = some '\r' then
    line.dropLast.flatMap marks.shown ++ ['^', 'M']
  else line.flatMap marks.shown

def number (n : Nat) : Octets :=
  let digits := Decimal.digits n
  List.replicate (6 - digits.length) ' ' ++ digits ++ ['\t']

/-- Marks the lines, given the number of the last one and whether the line before is
blank. -/
def markLines (marks : CopyMarks) : Nat → Bool → List Octets → Octets
  | _, _, [] => []
  | last, afterBlank, line :: rest =>
      let content := withoutLineFeed line
      let ended := line.getLast? = some '\n'
      let blank := line = ['\n']
      if marks.squeezes && blank && afterBlank then markLines marks last true rest
      else
        let numbered := if marks.numbersFilled then !blank else marks.numbersAll
        let head := if numbered then number (last + 1) else []
        let foot := if ended then (if marks.showsEnds then ['$', '\n'] else ['\n']) else []
        head ++ marks.shownLine content ended ++ foot ++
          markLines marks (if numbered then last + 1 else last) blank rest

end CopyMarks

/-- Copies operands one after another. -/
def cat : Program := fun name words console =>
  let scan := OptionScan.ofWords CopyMarks.forms true words
  match scan.given with
  | .error text => console.failUsage name text 1
  | .ok options =>
      let marks := options.foldl (fun marks option => marks.withOption option.1) CopyMarks.plain
      let operands := if scan.operands = [] then [['-']] else scan.operands
      let (content, console, status) := operands.foldl
        (fun (content, console, status) operand =>
          match Console.readOperand console operand with
          | (.ok octets, console) => (content ++ octets, console, status)
          | (.error cause, console) =>
              (content, console.complain (name ++ ": ".toList ++ Quoting.asName operand ++
                ": ".toList ++ cause.plainMessage), 1))
        (([] : Octets), console, 0)
      (console.print (marks.markLines 0 false (endedLines content)), status)

end CuratedHistory.Host.Programs
