import CompileWatch.Graph.Basic
import CompileWatch.Json.Writer

/-!
# Operand text

How the operands of a resume point are shown: a string as it is, and anything else
as compact JSON.
-/

namespace CompileWatch

def operandText : Json.Value → String
  | .string text => text
  | value => value.render

/-- The texts of all operands, with blanks between them. -/
def ResumePoint.operandList (point : ResumePoint) : String :=
  " ".intercalate (point.operands.map operandText)

end CompileWatch
