import CuratedHistory.Text.Basic

namespace CuratedHistory

/-! HTML as trees. Only rendering turns a tree into text, and it escapes all text
that is not given as finished markup. -/

def escapeHtmlChar (c : Char) : Text :=
  if c = '&' then "&amp;".toList
  else if c = '<' then "&lt;".toList
  else if c = '>' then "&gt;".toList
  else if c = '"' then "&quot;".toList
  else if c = '\'' then "&#39;".toList
  else [c]

def escapeHtml (text : Text) : Text :=
  text.flatMap escapeHtmlChar

inductive Html where
  | text (content : Text)
  /-- Finished markup, which is not escaped. -/
  | markup (content : Text)
  | element (tag : Text) (attributes : List (Text × Text)) (children : List Html)
  deriving Repr, Inhabited

namespace Html

/-- The attributes of a tag. Their values are markup, not text. -/
def renderAttributes (attributes : List (Text × Text)) : Text :=
  attributes.flatMap fun (name, value) => ' ' :: name ++ '=' :: '"' :: value ++ ['"']

def openTag (tag : Text) (attributes : List (Text × Text)) : Text :=
  '<' :: tag ++ renderAttributes attributes ++ ['>']

def closeTag (tag : Text) : Text :=
  '<' :: '/' :: tag ++ ['>']

mutual

def render : Html → Text
  | .text content => escapeHtml content
  | .markup content => content
  | .element tag attributes children =>
      openTag tag attributes ++ renderAll children ++ closeTag tag

def renderAll : List Html → Text
  | [] => []
  | node :: rest => render node ++ renderAll rest

end

def newline : Html := .text ['\n']

def classed (tag className : String) (children : List Html) : Html :=
  .element tag.toList [("class".toList, className.toList)] children

def plain (tag : String) (children : List Html) : Html :=
  .element tag.toList [] children

def string (content : String) : Html :=
  .text content.toList

/-- Nodes with a line break after each. -/
def lines (nodes : List Html) : List Html :=
  nodes.flatMap fun node => [node, newline]

end Html

end CuratedHistory
