import CompileWatch.Json.Value

/-!
# Writing JSON

Values are written without blanks.  A string escapes the quote, the backslash
and the control characters below the space, five of these by a short escape; all
else stands for itself.  A number that stands for an integer of 64 bits, with a sign
or without, is written as that integer, any other integer in full, any other real
number in its shortest decimal, and an infinity, for which JSON has no text, as
`null`.
-/

namespace CompileWatch.Json

/-- The lower-case hexadecimal digit of a number below 16. -/
def hexDigit (n : Nat) : Char :=
  Nat.digitChar n

/-- How a character is written inside a string. -/
def escapeChar (c : Char) : List Char :=
  if c = '"' then ['\\', '"']
  else if c = '\\' then ['\\', '\\']
  else if c = '\n' then ['\\', 'n']
  else if c = '\r' then ['\\', 'r']
  else if c = '\t' then ['\\', 't']
  else if c = '\x08' then ['\\', 'b']
  else if c = '\x0c' then ['\\', 'f']
  else if c.toNat < 0x20 then
    ['\\', 'u', '0', '0', hexDigit (c.toNat / 16), hexDigit (c.toNat % 16)]
  else [c]

/-- A string between quotes. -/
def writeString (text : List Char) : List Char :=
  '"' :: (text.flatMap escapeChar ++ ['"'])

/-- A number in digits, or `null`. -/
def Number.write (number : Number) : List Char :=
  match number.signed64?.or number.unsigned64?, number with
  | some value, _ => (toString value).toList
  | none, .integer value => (toString value).toList
  | none, .real (.infinite _) => "null".toList
  | none, .real value => value.text

namespace Value

mutual

/-- The compact text of a value. -/
def write : Value → List Char
  | .null => "null".toList
  | .bool value => (if value then "true" else "false").toList
  | .number value => value.write
  | .string text => writeString text.toList
  | .array items => '[' :: (writeItems items ++ [']'])
  | .object members => '{' :: (writeMembers members ++ ['}'])

/-- The items of an array, with commas between them. -/
def writeItems : List Value → List Char
  | [] => []
  | [item] => item.write
  | item :: next :: rest => item.write ++ ',' :: writeItems (next :: rest)

/-- The members of an object, with commas between them. -/
def writeMembers : List (String × Value) → List Char
  | [] => []
  | [(name, value)] => writeString name.toList ++ ':' :: value.write
  | (name, value) :: next :: rest =>
    writeString name.toList ++ ':' :: (value.write ++ ',' :: writeMembers (next :: rest))

end

/-- The compact text of a value, as a string. -/
def render (value : Value) : String :=
  String.ofList value.write

end Value

end CompileWatch.Json
