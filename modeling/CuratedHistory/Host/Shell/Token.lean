import CuratedHistory.Host.Shell.Command

namespace CuratedHistory.Host.Shell

/-! What the text of commands is made of. -/

inductive Keyword where
  | bang
  | case_
  | do_
  | done
  | elif
  | else_
  | esac
  | fi
  | for_
  | if_
  | in_
  | then_
  | until
  | while_
  | opening
  | closing
  deriving DecidableEq, Repr

def Keyword.named : List (String × Keyword) :=
  [("!", .bang), ("case", .case_), ("do", .do_), ("done", .done), ("elif", .elif),
    ("else", .else_), ("esac", .esac), ("fi", .fi), ("for", .for_), ("if", .if_), ("in", .in_),
    ("then", .then_), ("until", .until), ("while", .while_), ("\x7b", .opening),
    ("\x7d", .closing)]

def Keyword.text (keyword : Keyword) : Octets :=
  (((named.find? (·.2 == keyword)).map Prod.fst).getD "").toList

inductive Operator where
  | semicolon
  | ampersand
  | twoAmpersands
  | twoBars
  | bar
  | open_
  | close
  | twoSemicolons
  deriving DecidableEq, Repr

def Operator.text : Operator → Octets
  | .semicolon => ";".toList
  | .ampersand => "&".toList
  | .twoAmpersands => "&&".toList
  | .twoBars => "||".toList
  | .bar => "|".toList
  | .open_ => "(".toList
  | .close => ")".toList
  | .twoSemicolons => ";;".toList

/-- A redirection before the word after it is read. -/
inductive RedirectMark where
  | file (descriptor : Nat) (opening : Opening)
  | duplicate (descriptor : Nat)
  | document (descriptor : Nat) (stripsTabs : Bool)
  deriving DecidableEq, Repr

inductive Token where
  /-- A word, and whether some of it is quoted. -/
  | word (parts : Word) (quoted : Bool)
  | redirect (mark : RedirectMark)
  | operator (operator : Operator)
  | keyword (keyword : Keyword)
  | newline
  | ending

namespace Token

def described : Token → Octets
  | .word _ _ => "word".toList
  | .redirect _ => "redirection".toList
  | .operator sign => '"' :: sign.text ++ ['"']
  | .keyword name => '"' :: name.text ++ ['"']
  | .newline => "newline".toList
  | .ending => "end of file".toList

def asKeyword : Token → Token
  | .word [.text false octets] false =>
      match (Keyword.named.find? (·.1.toList == octets)).map Prod.snd with
      | some found => .keyword found
      | none => .word [.text false octets] false
  | token => token

def endsList : Token → Bool
  | .ending => true
  | .operator .close | .operator .twoSemicolons => true
  | .keyword .do_ | .keyword .done | .keyword .elif | .keyword .else_ | .keyword .esac
  | .keyword .fi | .keyword .then_ | .keyword .closing => true
  | _ => false

end Token

/-- What is wrong with the text of commands, and the line where that shows. -/
structure SyntaxError where
  line : Nat
  text : Octets
  deriving DecidableEq, Repr

def isNameStart (c : Char) : Bool :=
  c.isAlpha || c = '_'

def isNameOctet (c : Char) : Bool :=
  c.isAlphanum || c = '_'

def isName (word : Octets) : Bool :=
  match word with
  | [] => false
  | c :: rest => isNameStart c && rest.all isNameOctet

end CuratedHistory.Host.Shell
