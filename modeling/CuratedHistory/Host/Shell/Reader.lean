import CuratedHistory.Host.Shell.Token

namespace CuratedHistory.Host.Shell

/-! Reading commands. One complete line of commands is read at a time, so that what
precedes a mistake is run. A backslash and a line feed join two lines nearly
everywhere. Documents stand after the line that asks for them. -/

/-- A document that has been asked for and is to follow. -/
structure PendingDocument where
  number : Nat
  mark : Octets
  stripsTabs : Bool
  literal : Bool

structure Reader where
  rest : Octets
  line : Nat
  pushed : Option Token
  pending : List PendingDocument
  documents : Documents
  /-- How many documents have been asked for. -/
  asked : Nat
  /-- The names that commands of the shell have which no function may take. -/
  reserved : List Octets

def Reader.start (text : Octets) (line asked : Nat) (reserved : List Octets) : Reader where
  rest := text
  line
  pushed := none
  pending := []
  documents := []
  asked
  reserved

abbrev Reading := StateT Reader (Except SyntaxError)

namespace Reading

def refuse {α : Type} (text : Octets) : Reading α := fun reader =>
  .error { line := reader.line, text }

def skipJoins : Octets → Nat → Octets × Nat
  | '\\' :: '\n' :: rest, line => skipJoins rest (line + 1)
  | rest, line => (rest, line)

/-- The next octet after joined lines. -/
def peek? : Reading (Option Char) := fun reader =>
  let (rest, line) := skipJoins reader.rest reader.line
  .ok (rest.head?, { reader with rest, line })

def drop : Reading Unit := fun reader =>
  match reader.rest with
  | [] => .ok ((), reader)
  | c :: rest =>
      .ok ((), { reader with rest, line := if c = '\n' then reader.line + 1 else reader.line })

/-- Drops the next octet, which ends no line even if it is a line feed. -/
def skip : Reading Unit :=
  modify fun reader => { reader with rest := reader.rest.drop 1 }

/-- Drops the next octet if it is the given one. -/
def takes (c : Char) : Reading Bool := do
  if (← peek?) = some c then
    drop
    return true
  else return false

def takeRow : Nat → (Char → Bool) → Reading Octets
  | 0, _ => return []
  | n + 1, holds => do
      match ← peek? with
      | some c =>
          if holds c then
            drop
            return c :: (← takeRow n holds)
          else return []
      | none => return []

/-- The row of octets of a kind, which is not longer than what is left. -/
def row (holds : Char → Bool) : Reading Octets := do
  takeRow (← get).rest.length holds

end Reading

/-- The parts of a word so far, the latest first, and whether something is quoted. -/
structure WordDraft where
  parts : List Part
  quoted : Bool

namespace WordDraft

def empty : WordDraft where
  parts := []
  quoted := false

def word (draft : WordDraft) : Word :=
  draft.parts.reverse

def addPart (draft : WordDraft) (part : Part) : WordDraft :=
  { draft with parts := part :: draft.parts }

/-- Adds octets to a last part of the same kind, or as a part of their own. -/
def addText (draft : WordDraft) (quoted : Bool) (octets : Octets) : WordDraft :=
  match draft.parts with
  | .text before start :: rest =>
      if before = quoted then { draft with parts := .text quoted (start ++ octets) :: rest }
      else draft.addPart (.text quoted octets)
  | _ => draft.addPart (.text quoted octets)

def addQuoted (draft : WordDraft) (octets : Octets) : WordDraft :=
  { draft.addText true octets with quoted := true }

def addWord (draft : WordDraft) (parts : Word) : WordDraft :=
  { draft with parts := parts.reverse ++ draft.parts }

end WordDraft

/-- Where the parts of a word are read, which decides where they end and what has a
meaning. -/
inductive WordPlace where
  | bare
  /-- After a parameter in braces, bare or inside double quotes; further double quotes
  inside them are open or not. -/
  | braces (quoted inner : Bool)
  | doubleQuotes
  /-- An arithmetic expression, inside so many open parentheses. -/
  | sum (depth : Nat)
  | document
  deriving DecidableEq, Repr

namespace WordPlace

def isQuoted : WordPlace → Bool
  | .bare => false
  | .braces quoted _ => quoted
  | .doubleQuotes | .sum _ | .document => true

def endsBare (c : Char) : Bool :=
  " \t\n;&|<>()".toList.contains c

def escapes (place : WordPlace) (c : Char) : Bool :=
  !place.isQuoted || c = '\\' || c = '\x60' || c = '$' ||
    (c = '"' && place != .document) ||
    (c = '\x7d' && match place with
      | .braces _ _ => true
      | _ => false)

/-- What is wrong if the text ends there. -/
def unended? : WordPlace → Option String
  | .bare | .document => none
  | .braces false _ => some "Missing '\x7d'"
  | .braces true _ | .doubleQuotes => some "Unterminated quoted string"
  | .sum _ => some "Missing '))'"

end WordPlace

/-- How the token after a command is to be taken. -/
structure TokenCheck where
  skipsNewlines : Bool
  findsKeywords : Bool

namespace TokenCheck

def plain : TokenCheck := ⟨false, false⟩

def keywords : TokenCheck := ⟨false, true⟩

def anywhere : TokenCheck := ⟨true, true⟩

end TokenCheck

/-- What a list of commands is read in. -/
inductive ListPlace where
  /-- A line of its own. -/
  | line
  /-- Inside a command, which needs one command at least. -/
  | body
  /-- Where there need not be any. -/
  | optional
  deriving DecidableEq, Repr

namespace Reading

def isSpecialParameter (c : Char) : Bool :=
  "@*#?-$!".toList.contains c || c.isDigit

/-- The name of a parameter in braces or without them, if there is one. -/
def parameterName? (braced : Bool) : Reading (Option Octets) := do
  match ← peek? with
  | none => return none
  | some c =>
      if isNameStart c then return some (← row isNameOctet)
      else if c.isDigit then
        if braced then return some (← row Char.isDigit)
        else
          drop
          return some [c]
      else if isSpecialParameter c then
        drop
        return some [c]
      else return none

/-- The form of a parameter in braces after its name, and whether a word follows. -/
def formAfterName : Reading (ParameterForm × Bool) := do
  let ifEmpty ← takes ':'
  match ← peek? with
  | some '\x7d' =>
      drop
      return if ifEmpty then (.unknown, true) else (.value, false)
  | some '-' => drop; return (.fallback ifEmpty, true)
  | some '+' => drop; return (.alternative ifEmpty, true)
  | some '?' => drop; return (.demand ifEmpty, true)
  | some '=' => drop; return (.assignment ifEmpty, true)
  | some '%' =>
      drop
      if ifEmpty then return (.unknown, true)
      else return (.trim true (← takes '%'), true)
  | some '#' =>
      drop
      if ifEmpty then return (.unknown, true)
      else return (.trim false (← takes '#'), true)
  | some _ => skip; return (.unknown, true)
  | none => return (.unknown, true)

/-- A parameter in braces after the opening one: its name, its form and whether a word
follows. A number sign asks for a size if a parameter follows it. -/
def bracedParameter : Reading (Octets × ParameterForm × Bool) := do
  if ← takes '#' then
    match ← peek? with
    | some c =>
        if isNameOctet c then
          let name := (← parameterName? true).getD []
          if ← takes '\x7d' then return (name, .size, false)
          else return (name, .unknown, true)
        else
          let reader ← get
          drop
          if c ≠ '\x7d' ∧ (← peek?) = some '\x7d' then
            drop
            if isSpecialParameter c then return ([c], .size, false)
            else return ([], .unknown, false)
          else
            set reader
            let (form, more) ← formAfterName
            return (['#'], form, more)
    | none => return (['#'], .unknown, true)
  else
    match ← parameterName? true with
    | some name =>
        let (form, more) ← formAfterName
        return (name, form, more)
    | none =>
        if (← peek?) ≠ some '\x7d' then skip
        return ([], .unknown, true)

/-- A text between single quotes, after the first one. -/
def singleQuoted : Reading Octets := fun reader =>
  let inside := reader.rest.takeWhile (· != '\'')
  let line := reader.line + inside.count '\n'
  match reader.rest.dropWhile (· != '\'') with
  | [] => .error { line, text := "Syntax error: Unterminated quoted string".toList }
  | _ :: rest => .ok (inside, { reader with rest, line })

/-- The commands between two old quotes, after the first one. Some backslashes are
taken off. The number bounds the octets. -/
def oldQuoted (quoted : Bool) : Nat → Reading Octets
  | 0 => refuse "Syntax error: EOF in backquote substitution".toList
  | n + 1 => do
      match ← peek? with
      | none => refuse "Syntax error: EOF in backquote substitution".toList
      | some '\x60' =>
          drop
          return []
      | some '\\' =>
          drop
          match (← get).rest.head? with
          | none => refuse "Syntax error: EOF in backquote substitution".toList
          | some c =>
              drop
              let kept := "\\\x60$".toList.contains c || (quoted && c = '"')
              return (if kept then [c] else ['\\', c]) ++ (← oldQuoted quoted n)
      | some c =>
          drop
          return c :: (← oldQuoted quoted n)

def skipBlanks : Nat → Reading Unit
  | 0 => return
  | n + 1 => do
      match ← peek? with
      | some ' ' | some '\t' =>
          drop
          skipBlanks n
      | some '#' =>
          modify fun reader => { reader with rest := reader.rest.dropWhile (· != '\n') }
      | _ => return

/-- The rest of a redirection sign after its first octet. -/
def redirectMark (descriptor : Option Nat) (first : Char) : Reading RedirectMark := do
  if first = '>' then
    let descriptor := descriptor.getD 1
    if ← takes '>' then return .file descriptor .append
    else if ← takes '|' then return .file descriptor .overwrite
    else if ← takes '&' then return .duplicate descriptor
    else return .file descriptor .write
  else
    let descriptor := descriptor.getD 0
    if ← takes '<' then return .document descriptor (← takes '-')
    else if ← takes '&' then return .duplicate descriptor
    else if ← takes '>' then return .file descriptor .readWrite
    else return .file descriptor .read

/-- A token that is no word, if one starts here. -/
def signToken? : Reading (Option Token) := do
  match ← peek? with
  | none => return some .ending
  | some '\n' => drop; return some .newline
  | some '&' =>
      drop
      return some (.operator (if ← takes '&' then .twoAmpersands else .ampersand))
  | some '|' =>
      drop
      return some (.operator (if ← takes '|' then .twoBars else .bar))
  | some ';' =>
      drop
      return some (.operator (if ← takes ';' then .twoSemicolons else .semicolon))
  | some '(' => drop; return some (.operator .open_)
  | some ')' => drop; return some (.operator .close)
  | some c =>
      if c = '<' ∨ c = '>' then
        drop
        return some (.redirect (← redirectMark none c))
      else return none

/-- The lines of a document up to its mark, with what follows. A backslash at the end of
a line keeps the next line from being its mark, unless the document is literal. -/
def documentLines (document : PendingDocument) : Bool → List Octets → Octets × List Octets
  | _, [] => ([], [])
  | joined, line :: rest =>
      let stripped := if document.stripsTabs ∧ !joined then line.dropWhile (· == '\t') else line
      let body := if stripped.getLast? = some '\n' then stripped.dropLast else stripped
      if !joined ∧ body = document.mark then ([], rest)
      else
        let joins := !document.literal && (body.reverse.takeWhile (· == '\\')).length % 2 == 1
        let (content, after) := documentLines document joins rest
        (stripped ++ content, after)

def splitLines : Octets → List Octets
  | [] => []
  | c :: rest =>
      if c = '\n' then ['\n'] :: splitLines rest
      else
        match splitLines rest with
        | [] => [[c]]
        | line :: following => (c :: line) :: following

def documentText (document : PendingDocument) : Reading Octets := fun reader =>
  let (content, after) := documentLines document false (splitLines reader.rest)
  let rest := after.flatten
  .ok (content, { reader with
    rest, line := reader.line + (reader.rest.length - rest.length |> fun taken =>
      (reader.rest.take taken).count '\n') })

/-- The plain text of a word, with its quotes resolved. -/
def plainText (word : Word) : Octets :=
  word.flatMap fun part =>
    match part with
    | .text _ octets => octets
    | _ => []

def assignment? (word : Word) : Option (Octets × Word) :=
  match word with
  | .text false octets :: rest =>
      match Text.splitAtFirst (· == '=') octets with
      | (name, _ :: value) =>
          if isName name then
            some (name, if value = [] then rest else .text false value :: rest)
          else none
      | (_, []) => none
  | _ => none

def push (token : Token) : Reading Unit :=
  modify fun reader => { reader with pushed := some token }

/-- Refuses a token, and tells which one is expected if only one is. -/
def refuseToken {α : Type} (token : Token) (expected : Option Token) : Reading α :=
  refuse ("Syntax error: ".toList ++ token.described ++ " unexpected".toList ++
    match expected with
    | some token => " (expecting ".toList ++ token.described ++ [')']
    | none => [])

end Reading

/-- The readers of commands inside of others, one level of nesting further down. -/
structure Grammar where
  list : ListPlace → Reading (Option Command)
  command : TokenCheck → Reading Command

namespace Reading

def commandsOf (grammar : Grammar) (text : Octets) : Reading (Option Command) := do
  let reader ← get
  set { reader with rest := text, line := 1, pushed := none, pending := [] }
  let commands ← grammar.list .optional
  modify fun inner => { reader with documents := inner.documents, asked := inner.asked }
  return commands

/-- What a backslash stands before, as it is added to a word. -/
def escape (place : WordPlace) (draft : WordDraft) : Reading WordDraft := do
  match (← get).rest.head? with
  | none => return draft.addQuoted ['\\']
  | some c =>
      drop
      return draft.addQuoted (if place.escapes c then [c] else ['\\', c])

mutual

/-- Reads the parts of a word up to where its place ends it. The number bounds the
octets. -/
def parts (grammar : Grammar) : Nat → WordPlace → WordDraft → Reading WordDraft
  | 0, _, draft => return draft
  | n + 1, place, draft => do
      match ← peek? with
      | none =>
          match place.unended? with
          | some text => refuse ("Syntax error: ".toList ++ text.toList)
          | none => return draft
      | some c =>
          if place = .bare ∧ WordPlace.endsBare c then return draft
          else
            drop
            match c with
            | '\\' => parts grammar n place (← escape place draft)
            | '$' => parts grammar n place (← dollar grammar n place.isQuoted draft)
            | '\x60' =>
                let text ← oldQuoted place.isQuoted (← get).rest.length
                let commands ← commandsOf grammar text
                parts grammar n place (draft.addPart (.output place.isQuoted commands))
            | '\'' =>
                if place.isQuoted then parts grammar n place (draft.addText true ['\''])
                else parts grammar n place (draft.addQuoted (← singleQuoted))
            | '"' =>
                match place with
                | .doubleQuotes => return draft
                | .braces true inner =>
                    parts grammar n (.braces true !inner) { draft with quoted := true }
                | .sum _ | .document => parts grammar n place (draft.addText true ['"'])
                | .bare | .braces false _ =>
                    let inside ← parts grammar n .doubleQuotes (draft.addQuoted [])
                    parts grammar n place { inside with quoted := true }
            | '\x7d' =>
                match place with
                | .braces _ false => return draft
                | _ => parts grammar n place (draft.addText place.isQuoted [c])
            | '(' =>
                match place with
                | .sum depth => parts grammar n (.sum (depth + 1)) (draft.addText true [c])
                | _ => parts grammar n place (draft.addText place.isQuoted [c])
            | ')' =>
                match place with
                | .sum (depth + 1) => parts grammar n (.sum depth) (draft.addText true [c])
                | .sum 0 =>
                    if ← takes ')' then return draft
                    else parts grammar n place (draft.addText true [c])
                | _ => parts grammar n place (draft.addText place.isQuoted [c])
            | c => parts grammar n place (draft.addText place.isQuoted [c])

/-- Reads what a dollar sign stands before. -/
def dollar (grammar : Grammar) : Nat → Bool → WordDraft → Reading WordDraft
  | 0, _, draft => return draft
  | n + 1, quoted, draft => do
      match ← peek? with
      | some '(' =>
          drop
          if ← takes '(' then
            let expression ← parts grammar n (.sum 0) .empty
            return draft.addPart (.sum quoted expression.word)
          else
            let reader ← get
            set { reader with pending := [], pushed := none }
            let commands ← grammar.list .optional
            let inner ← get
            match inner.pushed with
            | some (.operator .close) =>
                set { inner with pushed := none, pending := inner.pending ++ reader.pending }
                return draft.addPart (.output quoted commands)
            | other => refuseToken (other.getD .ending) (some (.operator .close))
      | some '\x7b' =>
          drop
          let (name, form, more) ← bracedParameter
          if more then
            let trims :=
              match form with
              | .trim _ _ => true
              | _ => false
            let word ← parts grammar n (.braces (quoted && !trims) false) .empty
            return draft.addPart (.parameter quoted name form word.word)
          else return draft.addPart (.parameter quoted name form [])
      | some c =>
          if isNameStart c ∨ isSpecialParameter c then
            let name := (← parameterName? false).getD []
            return draft.addPart (.parameter quoted name .value [])
          else return draft.addText quoted ['$']
      | none => return draft.addText quoted ['$']

end

def word (grammar : Grammar) (place : WordPlace) : Reading WordDraft := do
  parts grammar (2 * (← get).rest.length + 2) place .empty

def scanToken (grammar : Grammar) : Reading Token := do
  skipBlanks ((← get).rest.length + 1)
  match ← signToken? with
  | some token => return token
  | none =>
      let draft ← word grammar .bare
      match draft.parts, ← peek? with
      | [.text false [digit]], some c =>
          if digit.isDigit ∧ !draft.quoted ∧ (c = '<' ∨ c = '>') then
            drop
            return .redirect (← redirectMark (some (digit.toNat - 48)) c)
          else return .word draft.word draft.quoted
      | _, _ => return .word draft.word draft.quoted

def takeEach (grammar : Grammar) : List PendingDocument → Reading Unit
  | [] => return
  | document :: rest => do
      let line := (← get).line
      let content ← documentText document
      let after ← get
      if document.literal then
        set { after with
          documents := (document.number, [.text true content]) :: after.documents }
      else
        set { after with rest := content, line, pushed := none, pending := [] }
        let draft ← word grammar .document
        let inner ← get
        set { after with
          documents := (document.number, draft.word) :: inner.documents, asked := inner.asked }
      takeEach grammar rest

def takeDocuments (grammar : Grammar) : Reading Unit := do
  let pending := (← get).pending
  takeEach grammar pending
  modify fun reader => { reader with pending := [] }

/-- The next token, which may have been read before. The number bounds the lines that
are skipped. -/
def nextTokenWithin (grammar : Grammar) (check : TokenCheck) : Nat → Reading Token
  | 0 => return .ending
  | n + 1 => do
      let reader ← get
      let token ←
        match reader.pushed with
        | some token =>
            set { reader with pushed := none }
            pure token
        | none => scanToken grammar
      match token with
      | .newline =>
          if check.skipsNewlines then
            takeDocuments grammar
            nextTokenWithin grammar check n
          else return .newline
      | token => return if check.findsKeywords then token.asKeyword else token

def nextToken (grammar : Grammar) (check : TokenCheck) : Reading Token := do
  nextTokenWithin grammar check ((← get).rest.length + 2)

/-- Refuses the next token unless it is the keyword. -/
def expectKeyword (grammar : Grammar) (check : TokenCheck) (keyword : Keyword) :
    Reading Unit := do
  match ← nextToken grammar check with
  | .keyword found =>
      if found = keyword then return
      else refuseToken (.keyword found) (some (.keyword keyword))
  | token => refuseToken token (some (.keyword keyword))

/-- Commands that there must be. The text may end before any, which is left for what
is to follow them to refuse. -/
def body (grammar : Grammar) : Reading Command := do
  return (← grammar.list .body).getD (.simple (← get).line [] [] [])

/-- The word after a redirection sign. -/
def redirectTarget (grammar : Grammar) (mark : RedirectMark) : Reading Redirect := do
  match ← nextToken grammar .plain with
  | .word word quoted =>
      match mark with
      | .file descriptor opening => return .file descriptor opening word
      | .duplicate descriptor => return .duplicate descriptor word
      | .document descriptor stripsTabs =>
          let reader ← get
          let document : PendingDocument :=
            { number := reader.asked, mark := plainText word, stripsTabs, literal := quoted }
          set { reader with pending := reader.pending ++ [document], asked := reader.asked + 1 }
          return .document descriptor document.number
  | token => refuseToken token none

/-- The redirections from here on. The number bounds them. -/
def redirectsWithin (grammar : Grammar) (check : TokenCheck) : Nat → Reading (List Redirect)
  | 0 => return []
  | n + 1 => do
      match ← nextToken grammar check with
      | .redirect mark =>
          let first ← redirectTarget grammar mark
          return first :: (← redirectsWithin grammar .plain n)
      | token =>
          push token
          return []

/-- A command with the redirections after it. -/
def redirected (grammar : Grammar) (line : Nat) (command : Command) : Reading Command := do
  match ← redirectsWithin grammar .keywords ((← get).rest.length + 1) with
  | [] => return command
  | found =>
      match command with
      | .subshell line inside [] => return .subshell line inside found
      | command => return .redirected line command found

/-- The bodies of a choice by status after its first keyword. The number bounds them. -/
def conditionalWithin (grammar : Grammar) : Nat → Reading Command
  | 0 => refuse []
  | n + 1 => do
      let condition ← body grammar
      expectKeyword grammar .plain .then_
      let first ← body grammar
      match ← nextToken grammar .plain with
      | .keyword .elif => return .conditional condition first (some (← conditionalWithin grammar n))
      | .keyword .else_ =>
          let other ← body grammar
          expectKeyword grammar .plain .fi
          return .conditional condition first (some other)
      | .keyword .fi => return .conditional condition first none
      | token => refuseToken token (some (.keyword .fi))

def loop (grammar : Grammar) (endsOn : Bool) : Reading Command := do
  let condition ← body grammar
  expectKeyword grammar .plain .do_
  let inside ← body grammar
  expectKeyword grammar .plain .done
  return .loop endsOn condition inside

/-- Words up to the end of a line or a semicolon. The number bounds them. -/
def wordsWithin (grammar : Grammar) : Nat → Reading (List Word)
  | 0 => return []
  | n + 1 => do
      match ← nextToken grammar .plain with
      | .word word _ => return word :: (← wordsWithin grammar n)
      | .newline =>
          takeDocuments grammar
          return []
      | .operator .semicolon => return []
      | token => refuseToken token none

/-- The words that a loop goes over; without any it goes over all arguments. -/
def loopWords (grammar : Grammar) : Reading (List Word) := do
  match ← nextToken grammar .anywhere with
  | .keyword .in_ => wordsWithin grammar ((← get).rest.length + 1)
  | .operator .semicolon => return [[.parameter true ['@'] .value []]]
  | token =>
      push token
      return [[.parameter true ['@'] .value []]]

def each (grammar : Grammar) (line : Nat) : Reading Command := do
  match ← nextToken grammar .plain with
  | .word [.text false name] false =>
      if isName name then
        let words ← loopWords grammar
        expectKeyword grammar .anywhere .do_
        let inside ← body grammar
        expectKeyword grammar .plain .done
        return .each line name words inside
      else refuse "Syntax error: Bad for loop variable".toList
  | _ => refuse "Syntax error: Bad for loop variable".toList

/-- Patterns with bars between them, up to a closing parenthesis, after the first token.
The number bounds them. -/
def patternsWithin (grammar : Grammar) : Nat → Token → Reading (List Word)
  | 0, _ => return []
  | n + 1, first => do
      let word :=
        match first with
        | .word word _ => word
        | .keyword keyword => [.text false keyword.text]
        | token => [.text false token.described]
      match ← nextToken grammar .plain with
      | .operator .bar => return word :: (← patternsWithin grammar n (← nextToken grammar .plain))
      | .operator .close => return [word]
      | token => refuseToken token (some (.operator .close))

/-- The first token of a case, after an opening parenthesis if there is one. -/
def caseStart? (grammar : Grammar) : Reading (Option Token) := do
  match ← nextToken grammar .anywhere with
  | .keyword .esac => return none
  | .operator .open_ => return some (← nextToken grammar .plain)
  | token => return some token

/-- The cases of a choice. The number bounds them. -/
def casesWithin (grammar : Grammar) : Nat → Reading (List (List Word × Option Command))
  | 0 => return []
  | n + 1 => do
      match ← caseStart? grammar with
      | none => return []
      | some first =>
          let patterns ← patternsWithin grammar ((← get).rest.length + 1) first
          let inside ← grammar.list .optional
          match ← nextToken grammar .anywhere with
          | .keyword .esac => return [(patterns, inside)]
          | .operator .twoSemicolons => return (patterns, inside) :: (← casesWithin grammar n)
          | token => refuseToken token (some (.operator .twoSemicolons))

def choice (grammar : Grammar) (line : Nat) : Reading Command := do
  match ← nextToken grammar .plain with
  | .word word _ =>
      expectKeyword grammar .anywhere .in_
      return .choice line word (← casesWithin grammar ((← get).rest.length + 1))
  | token => refuseToken token (some (.word [] false))

/-- A function after its name and its parentheses. -/
def function (grammar : Grammar) (name : Word) (quoted : Bool) : Reading Command := do
  let text := plainText name
  let isPlain :=
    match name with
    | [.text false _] => !quoted
    | _ => false
  let reader ← get
  if isPlain && isName text && !reader.reserved.contains text then
    return .function reader.line text (← grammar.command .anywhere)
  else refuse "Syntax error: Bad function name".toList

/-- The parts of a simple command, each kind the latest first. -/
structure SimpleDraft where
  assignments : List (Octets × Word)
  words : List (Word × Bool)
  redirects : List Redirect

/-- A simple command, or a function, after some of it. The number bounds the tokens. -/
def simpleWithin (grammar : Grammar) (line : Nat) : Nat → SimpleDraft → Reading Command
  | 0, _ => refuse []
  | n + 1, draft => do
      match ← nextToken grammar .plain with
      | .word word quoted =>
          match (if draft.words.isEmpty then assignment? word else none) with
          | some assignment =>
              simpleWithin grammar line n
                { draft with assignments := assignment :: draft.assignments }
          | none => simpleWithin grammar line n { draft with words := (word, quoted) :: draft.words }
      | .redirect sign =>
          let target ← redirectTarget grammar sign
          simpleWithin grammar line n { draft with redirects := target :: draft.redirects }
      | .operator .open_ =>
          match draft.assignments, draft.words, draft.redirects with
          | [], [(name, quoted)], [] =>
              match ← nextToken grammar .plain with
              | .operator .close => function grammar name quoted
              | token => refuseToken token (some (.operator .close))
          | _, _, _ => refuseToken (.operator .open_) none
      | token =>
          push token
          return .simple line draft.assignments.reverse (draft.words.reverse.map Prod.fst)
            draft.redirects.reverse

/-- A command with the redirections after it. -/
def commandIn (grammar : Grammar) (check : TokenCheck) : Reading Command := do
  let token ← nextToken grammar check
  let reader ← get
  let line := reader.line
  let room := reader.rest.length + 2
  match token with
  | .keyword .if_ => redirected grammar line (← conditionalWithin grammar room)
  | .keyword .while_ => redirected grammar line (← loop grammar false)
  | .keyword .until => redirected grammar line (← loop grammar true)
  | .keyword .for_ => redirected grammar line (← each grammar line)
  | .keyword .case_ => redirected grammar line (← choice grammar line)
  | .operator .open_ =>
      let inside ← body grammar
      match ← nextToken grammar .plain with
      | .operator .close => redirected grammar line (.subshell line inside [])
      | token => refuseToken token (some (.operator .close))
  | .keyword .opening =>
      let inside ← body grammar
      expectKeyword grammar .plain .closing
      redirected grammar line inside
  | .word _ _ | .redirect _ =>
      push token
      simpleWithin grammar line (room + 2) { assignments := [], words := [], redirects := [] }
  | token => refuseToken token none

/-- The rest of a pipeline after its first command. The number bounds the others. -/
def pipelineWithin (grammar : Grammar) : Nat → Reading (List Command)
  | 0 => return []
  | n + 1 => do
      match ← nextToken grammar .plain with
      | .operator .bar =>
          let next ← commandIn grammar .anywhere
          return next :: (← pipelineWithin grammar n)
      | token =>
          push token
          return []

def pipelineFrom (grammar : Grammar) (check : TokenCheck) : Reading Command := do
  let first ← commandIn grammar check
  match ← pipelineWithin grammar ((← get).rest.length + 1) with
  | [] => return first
  | others => return .pipeline (first :: others)

def pipeline (grammar : Grammar) (check : TokenCheck) : Reading Command := do
  match ← nextToken grammar check with
  | .keyword .bang => return .inverted (← pipelineFrom grammar .keywords)
  | token =>
      push token
      pipelineFrom grammar .plain

/-- Pipelines, each run or not by the status of those before. The number bounds them. -/
def andOrWithin (grammar : Grammar) : Nat → Command → Reading Command
  | 0, first => return first
  | n + 1, first => do
      match ← nextToken grammar .plain with
      | .operator .twoAmpersands =>
          andOrWithin grammar n (.both first (← pipeline grammar .anywhere))
      | .operator .twoBars => andOrWithin grammar n (.either first (← pipeline grammar .anywhere))
      | token =>
          push token
          return first

def andOr (grammar : Grammar) : Reading Command := do
  let first ← pipeline grammar .plain
  andOrWithin grammar ((← get).rest.length + 1) first

/-- A row of commands after those before. The number bounds them. -/
def listWithin (grammar : Grammar) (place : ListPlace) :
    Nat → Option Command → Reading (Option Command)
  | 0, before => return before
  | n + 1, before => do
      match ← nextToken grammar ⟨place ≠ .line, true⟩ with
      | .newline =>
          takeDocuments grammar
          return before
      | .ending =>
          takeDocuments grammar
          push .ending
          return before
      | token =>
          push token
          if (place = .optional ∨ (place = .body ∧ before.isSome)) ∧ token.endsList then
            return before
          else
            let command ← andOr grammar
            let token ← nextToken grammar .plain
            let command :=
              match token with
              | .operator .ampersand => Command.background command
              | _ => command
            let joined :=
              match before with
              | some first => Command.sequence first command
              | none => command
            match token with
            | .ending =>
                takeDocuments grammar
                push .ending
                return some joined
            | .newline =>
                push .newline
                listWithin grammar place n (some joined)
            | .operator .ampersand | .operator .semicolon =>
                listWithin grammar place n (some joined)
            | token =>
                if place = .line then refuseToken token none
                else
                  push token
                  return some joined

def listIn (grammar : Grammar) (place : ListPlace) : Reading (Option Command) := do
  listWithin grammar place ((← get).rest.length + 2) none

end Reading

def Grammar.ofDepth : Nat → Grammar
  | 0 => { list := fun _ => Reading.refuse [], command := fun _ => Reading.refuse [] }
  | depth + 1 =>
      let inside := ofDepth depth
      { list := Reading.listIn inside, command := Reading.commandIn inside }

/-- What the next line of commands holds. -/
inductive Line where
  | commands (commands : Option Command) (reader : Reader)
  | ending

def Reader.nextLine (reader : Reader) : Except SyntaxError Line :=
  let grammar := Grammar.ofDepth (reader.rest.length + 1)
  match (do
    let commands ← grammar.list .line
    return commands : Reading (Option Command)).run { reader with pushed := none } with
  | .error error => .error error
  | .ok (none, after) =>
      match after.pushed with
      | some .ending => .ok .ending
      | _ => .ok (.commands none after)
  | .ok (some command, after) => .ok (.commands (some command) after)

end CuratedHistory.Host.Shell
