/-!
# Markup for labels

A label is a tree of elements and text.  Text is escaped where it is written, so
that it can neither open or close a tag nor look like a character reference.
-/

namespace CompileWatch.Dot

/-- How a character of a text is written: the two angle brackets, the ampersand and the two quotes
by a character reference, all others as they are. -/
def escapeChar (c : Char) : List Char :=
  if c = '&' then "&amp;".toList
  else if c = '<' then "&lt;".toList
  else if c = '>' then "&gt;".toList
  else if c = '"' then "&quot;".toList
  else if c = '\'' then "&#39;".toList
  else [c]

/-- A text with the five special characters written by references. -/
def escape (text : String) : String :=
  String.ofList (text.toList.flatMap escapeChar)

/-- A piece of a label. -/
inductive Markup
  | text (content : String)
  /-- A character written by its number. -/
  | reference (c : Char)
  | element (tag : String) (attributes : List (String × String)) (children : List Markup)
  deriving Repr, Inhabited

namespace Markup

/-- The attributes inside an opening tag, each after a blank. -/
def renderAttributes (attributes : List (String × String)) : String :=
  String.join (attributes.map fun (name, value) => " " ++ name ++ "=\"" ++ value ++ "\"")

mutual

/-- The text of a piece. -/
def render : Markup → String
  | .text content => escape content
  | .reference c => "&#" ++ toString c.toNat ++ ";"
  | .element tag attributes children =>
    "<" ++ tag ++ renderAttributes attributes ++ ">" ++ renderAll children ++ "</" ++ tag ++ ">"

/-- The texts of some pieces, one after the other. -/
def renderAll : List Markup → String
  | [] => ""
  | piece :: rest => piece.render ++ renderAll rest

end

end Markup

end CompileWatch.Dot
