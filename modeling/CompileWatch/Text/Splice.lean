/-!
# Occurrences of a token

Occurrences are looked for from the left, and the search goes on behind each one
that is found, so they do not overlap.
-/

namespace CompileWatch.Text

/-- The number of occurrences of `token` from the left, with `skip` characters still belonging to
the last one that was found. -/
def countFrom (token : List Char) : Nat → List Char → Nat
  | _, [] => 0
  | skip + 1, _ :: text => countFrom token skip text
  | 0, c :: text =>
    if token.isPrefixOf (c :: text) then 1 + countFrom token (token.length - 1) text
    else countFrom token 0 text

/-- The number of occurrences of a nonempty token, found from the left without overlap. -/
def count (token text : List Char) : Nat :=
  countFrom token 0 text

/-- The text with the first occurrence of a nonempty token replaced. -/
def replaceFirst (token replacement : List Char) : List Char → List Char
  | [] => []
  | c :: text =>
    if token.isPrefixOf (c :: text) then replacement ++ (c :: text).drop token.length
    else c :: replaceFirst token replacement text

end CompileWatch.Text
