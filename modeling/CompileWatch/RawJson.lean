import CompileWatch.CompilationId
import CompileWatch.Frame
import CompileWatch.Script
import CompileWatch.Text.Blank
import CompileWatch.Text.Splice

/-!
# Graph texts and the frames that carry them

The control side forwards the graph of a compilation as the text that the
compiler wrote, without reading it.  The frame is made from an envelope in which a
reserved number, the sentinel, stands for the graph; the text then takes the place
of the sentinel.  That is only done when the sentinel occurs once, so that the
text cannot end up in a name or a url.
-/

namespace CompileWatch

/-- A text that begins like a JSON object or array, after white space.  Nothing else is known of
it. -/
structure RawJson where
  text : String
  structured : (Text.trimStart text.toList).head? = some '{' ∨
    (Text.trimStart text.toList).head? = some '['
  deriving DecidableEq, Repr

/-- The text as a graph text, if it begins like one. -/
def RawJson.ofText? (text : String) : Except WireError RawJson :=
  if structured : (Text.trimStart text.toList).head? = some '{' ∨
      (Text.trimStart text.toList).head? = some '[' then .ok ⟨text, structured⟩
  else .error .notStructured

/-- The number that holds the place of the graph in an envelope. -/
def graphSentinel : Nat := 9007199254740881

/-- The sentinel in decimal digits. -/
def sentinelDigits : List Char :=
  Nat.toDigits 10 graphSentinel

/-- Puts the graph text into the place of the sentinel, which has to occur exactly once. -/
def spliceGraph (envelope : String) (graph : RawJson) : Except WireError String :=
  let occurrences := Text.count sentinelDigits envelope.toList
  if occurrences = 1 then
    .ok (String.ofList (Text.replaceFirst sentinelDigits graph.text.toList envelope.toList))
  else .error (.sentinelCollision occurrences)

/-- A compilation on its way to the panel, with its graph as text. -/
structure GraphFrame where
  id : CompilationId
  scripts : List Script
  graph : RawJson
  deriving DecidableEq, Repr

namespace GraphFrame

open Json.Value

/-- The frame with the sentinel in the place of the graph. -/
def envelope (id : CompilationId) (scripts : List Script) : String :=
  Frame.encode (.object [("type", .string "compilation-graph"), ("id", id.toJson),
    ("scripts", ofList Script.toJson scripts), ("graph", natural graphSentinel)])

/-- The frame with the graph text in its place. -/
def encode (frame : GraphFrame) : Except WireError Frame :=
  spliceGraph (envelope frame.id frame.scripts) frame.graph

end GraphFrame

end CompileWatch
