import CompileWatch.Json.Field

/-!
# Scripts

A script is the source of one compiled or inlined function: its name if it has
one, where it was loaded from, and where its text lies.
-/

namespace CompileWatch

/-- Where the source of one function lies. -/
structure Script where
  /-- The function's name, absent for an anonymous function. -/
  displayName : Option String := none
  url : String := ""
  /-- The line on which the function starts, counted from one. -/
  startLine : UInt32 := 1
  lineCount : UInt32 := 1
  /-- The offset of the function's text within its source. -/
  sourceStart : UInt32 := 0
  sourceLength : UInt32 := 0
  deriving DecidableEq, Repr, Inhabited

namespace Script

/-- The name used in listings; an anonymous function has a placeholder. -/
def name (script : Script) : String :=
  script.displayName.getD "(anonymous)"

/-- The part of a text after its last slash, or all of it if it has none. -/
def lastSegment (text : List Char) : List Char :=
  (text.reverse.takeWhile (· ≠ '/')).reverse

/-- The last segment of the url and the first line, with a colon between them. -/
def location (script : Script) : String :=
  String.ofList (lastSegment script.url.toList) ++ ":" ++ toString script.startLine.toNat

/-! ## As JSON -/

open Json.Value

def ofJson? (value : Json.Value) : Option Script := do
  let members ← value.members?
  let displayName ← fieldOr? none (toOption? toText?) "displayName" members
  let url ← field? toText? "url" members
  let startLine ← field? toUInt32? "startLine" members
  let lineCount ← field? toUInt32? "lineCount" members
  let sourceStart ← field? toUInt32? "sourceStart" members
  let sourceLength ← field? toUInt32? "sourceLength" members
  return { displayName, url, startLine, lineCount, sourceStart, sourceLength }

def toJson (script : Script) : Json.Value :=
  .object [("displayName", ofOption .string script.displayName),
    ("url", .string script.url),
    ("startLine", natural script.startLine.toNat),
    ("lineCount", natural script.lineCount.toNat),
    ("sourceStart", natural script.sourceStart.toNat),
    ("sourceLength", natural script.sourceLength.toNat)]

end Script

end CompileWatch
