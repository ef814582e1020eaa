import CompileWatch.Text.Assoc

/-!
# Graph documents

A directed graph with attributes on the graph, its nodes and its edges, and its
text in the DOT format.  A value is written as a bare word, between double quotes
or between angle brackets.  Attributes are ordered: one that is set twice keeps
its first position and takes its last value.
-/

namespace CompileWatch.Dot

/-- The value of an attribute. -/
inductive Value
  /-- A bare word. -/
  | word (text : String)
  /-- A text between double quotes. -/
  | quoted (text : String)
  /-- A label of elements and text, between angle brackets. -/
  | label (markup : String)
  deriving DecidableEq, Repr, Inhabited

/-- How a character is written between double quotes. -/
def quoteChar (c : Char) : List Char :=
  if c = '\\' then ['\\', '\\'] else if c = '"' then ['\\', '"'] else [c]

/-- The text of a value. -/
def Value.render : Value → String
  | .word text => text
  | .quoted text => String.ofList ('"' :: (text.toList.flatMap quoteChar ++ ['"']))
  | .label markup => "<" ++ markup ++ ">"

/-- Attributes in the order in which they were first set. -/
abbrev Attributes := Assoc String Value

namespace Attributes

/-- An attribute as a key and a value. -/
def renderPair (pair : String × Value) : String :=
  pair.1 ++ "=" ++ pair.2.render

/-- Attributes in brackets after a blank, or nothing if there are none. -/
def render (attributes : Attributes) : String :=
  if attributes = [] then "" else " [" ++ ",".intercalate (attributes.map renderPair) ++ "]"

end Attributes

/-- A node with its attributes. -/
structure Node where
  name : String
  attributes : Attributes := []
  deriving DecidableEq, Repr, Inhabited

/-- An edge between two nodes, given by their names. -/
structure Edge where
  source : String
  target : String
  attributes : Attributes := []
  deriving DecidableEq, Repr, Inhabited

/-- A directed graph. -/
structure Document where
  name : String
  attributes : Attributes := []
  nodes : List Node := []
  edges : List Edge := []
  deriving DecidableEq, Repr, Inhabited

/-- The line of a node. -/
def Node.render (node : Node) : String :=
  "  \"" ++ node.name ++ "\"" ++ Attributes.render node.attributes ++ ";\n"

/-- The line of an edge. -/
def Edge.render (edge : Edge) : String :=
  "  \"" ++ edge.source ++ "\" -> \"" ++ edge.target ++ "\"" ++
    Attributes.render edge.attributes ++ ";\n"

namespace Document

/-- The first node with the given name. -/
def node? (document : Document) (name : String) : Option Node :=
  document.nodes.find? fun node => node.name = name

/-- The text of a graph: its attributes, its nodes and its edges, one on a line, with an empty line
between the three parts. -/
def render (document : Document) : String :=
  "digraph " ++ document.name ++ " \x7b\n" ++
    String.join (document.attributes.map fun pair => "  " ++ Attributes.renderPair pair ++ ";\n") ++
    "\n" ++ String.join (document.nodes.map Node.render) ++
    "\n" ++ String.join (document.edges.map Edge.render) ++ "\x7d\n"

end Document

end CompileWatch.Dot
