import CompileWatch.Text.Blank

/-!
# Display modes

A compilation can be drawn in three ways: the blocks of either lowering stage, or
the tree of inlined calls.
-/

namespace CompileWatch

/-- What a compilation is drawn as. -/
inductive DisplayMode
  /-- The blocks of the upper stage. -/
  | mir
  /-- The blocks of the lower stage. -/
  | lir
  /-- The tree of inlined calls. -/
  | src
  deriving DecidableEq, Repr, Inhabited

/-- A text that names no mode. -/
structure UnknownMode where
  text : String
  deriving DecidableEq, Repr

def UnknownMode.message (error : UnknownMode) : String :=
  "unknown display mode '" ++ error.text ++ "' (expected mir, lir or src)"

namespace DisplayMode

def name : DisplayMode → String
  | .mir => "mir"
  | .lir => "lir"
  | .src => "src"

/-- All modes. -/
def all : List DisplayMode := [.mir, .lir, .src]

/-- Reads the name of a mode, with white space around it and letters of either case. -/
def ofText? (text : String) : Except UnknownMode DisplayMode :=
  let wanted := (Text.trim text.toList).map Char.toLower
  match all.find? fun mode => mode.name.toList = wanted with
  | some mode => .ok mode
  | none => .error ⟨text⟩

end DisplayMode

end CompileWatch
