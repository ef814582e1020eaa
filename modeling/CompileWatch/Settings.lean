import CompileWatch.DisplayMode
import CompileWatch.Link
import CompileWatch.Text.Unsigned

/-!
# Settings

Each setting is looked up as a text.  One that is missing or makes no sense takes
its usual value.
-/

namespace CompileWatch

/-- The settings of a panel and its links. -/
structure Settings where
  /-- The length in bytes of the longest frame that a link delivers. -/
  maxFrameBytes : Nat := defaultMaxBytes
  /-- The mode in which a new panel draws. -/
  defaultMode : DisplayMode := .mir
  deriving DecidableEq, Repr

namespace Settings

/-- The settings that can be looked up. -/
inductive Key
  | maxFrameBytes
  | defaultMode
  deriving DecidableEq, Repr

/-- Reads a limit, which is a positive word of 64 bits with white space around it. -/
def limit? (text : String) : Option Nat :=
  (Text.unsigned? UInt64.size (Text.trim text.toList)).filter (0 < ·)

def mode? (text : String) : Option DisplayMode :=
  (DisplayMode.ofText? text).toOption

/-- The settings that result from looking up each of them. -/
def ofLookup (lookup : Key → Option String) : Settings where
  maxFrameBytes := ((lookup .maxFrameBytes).bind limit?).getD defaultMaxBytes
  defaultMode := ((lookup .defaultMode).bind mode?).getD .mir

/-- A new link with the configured limit. -/
def link (settings : Settings) (name : String) : Link :=
  { name, maxBytes := settings.maxFrameBytes }

end Settings

end CompileWatch
