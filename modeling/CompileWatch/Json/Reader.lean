import CompileWatch.Binary64.Nearest
import CompileWatch.Json.Value

/-!
# Reading JSON

The reader takes the first complete value of a text and ignores what follows it.
It is more generous than the standard in several ways: one comma may stand before a
closing bracket or brace; a string may hold control characters as they are; a
backslash may stand before any ASCII character, which then means itself unless it
is one of the known escapes; and a number may have leading zeros, or no digit
before or after its point.  Of the four digits of a code unit, the first may be a
plus sign instead.

Integers are kept exactly if they fit in 64 bits.  One that needs up to 128 bits
is read as a string of its digits, and a larger one is refused.  A number with a
point or an exponent becomes the nearest floating point number.

Reading a value never needs more nested calls than twice the length of the text,
which is the bound that `read?` starts with.
-/

namespace CompileWatch.Json

/-! ## Blanks and strings -/

/-- The four characters that may stand between tokens. -/
def isGap (c : Char) : Bool :=
  c = ' ' || c = '\t' || c = '\n' || c = '\r'

/-- The text without the blanks it starts with. -/
def skipGap (text : List Char) : List Char :=
  text.dropWhile isGap

/-- The value of a hexadecimal digit. -/
def hexValue? (c : Char) : Option Nat :=
  if '0' ≤ c ∧ c ≤ '9' then some (c.toNat - '0'.toNat)
  else if 'a' ≤ c ∧ c ≤ 'f' then some (c.toNat - 'a'.toNat + 10)
  else if 'A' ≤ c ∧ c ≤ 'F' then some (c.toNat - 'A'.toNat + 10)
  else none

/-- The number that four hexadecimal digits stand for.  A plus sign may stand in the place of the
first, which is then zero. -/
def codeUnit? (a b c d : Char) : Option Nat :=
  match (if a = '+' then some 0 else hexValue? a), hexValue? b, hexValue? c, hexValue? d with
  | some a, some b, some c, some d => some (((a * 16 + b) * 16 + c) * 16 + d)
  | _, _, _, _ => none

/-- Whether a code unit is the first half of a surrogate pair. -/
def isHighSurrogate (unit : Nat) : Bool :=
  0xd800 ≤ unit && unit < 0xdc00

/-- Whether a code unit is the second half of a surrogate pair. -/
def isLowSurrogate (unit : Nat) : Bool :=
  0xdc00 ≤ unit && unit < 0xe000

/-- The character that a surrogate pair stands for. -/
def ofSurrogates (high low : Nat) : Char :=
  Char.ofNat (0x10000 + (high - 0xd800) * 0x400 + (low - 0xdc00))

/-- What a backslash followed by `c` stands for, if `c` does not introduce a code unit. -/
def escaped? (c : Char) : Option Char :=
  if c = 'b' then some '\x08'
  else if c = 'f' then some '\x0c'
  else if c = 'n' then some '\n'
  else if c = 'r' then some '\r'
  else if c = 't' then some '\t'
  else if c ≠ 'u' ∧ c.toNat < 128 then some c
  else none

/-- Puts a character in front of what has been read of a string. -/
def prepend (c : Char) (read : Option (List Char × List Char)) : Option (List Char × List Char) :=
  read.map fun (content, rest) => (c :: content, rest)

/-- The content of a string whose opening quote has been read, and the text after its closing
quote. -/
def stringTail? : List Char → Option (List Char × List Char)
  | [] => none
  | c :: text =>
    if c = '"' then some ([], text)
    else if c ≠ '\\' then prepend c (stringTail? text)
    else
      match text with
      | 'u' :: a :: b :: c :: d :: rest =>
        match codeUnit? a b c d with
        | none => none
        | some unit =>
          if isHighSurrogate unit then
            match rest with
            | '\\' :: 'u' :: a :: b :: c :: d :: rest =>
              match codeUnit? a b c d with
              | none => none
              | some low =>
                if isLowSurrogate low then prepend (ofSurrogates unit low) (stringTail? rest)
                else none
            | _ => none
          else if isLowSurrogate unit then none
          else prepend (Char.ofNat unit) (stringTail? rest)
      | e :: rest =>
        match escaped? e with
        | none => none
        | some meant => prepend meant (stringTail? rest)
      | [] => none

/-! ## Numbers -/

/-- The row of digits that a text starts with, and the rest. -/
def digitRun (text : List Char) : List Char × List Char :=
  text.span Char.isDigit

/-- The digits after a point, if the text starts with one, and the rest. -/
def fraction? : List Char → Option (List Char) × List Char
  | '.' :: text => let (digits, rest) := digitRun text; (some digits, rest)
  | text => (none, text)

/-- The sign in front of an exponent, a plus sign if there is none. -/
def exponentSign : List Char → Bool × List Char
  | '+' :: text => (false, text)
  | '-' :: text => (true, text)
  | text => (false, text)

/-- The sign and digits after the mark of an exponent, if the text starts with one, and the
rest. -/
def exponent? (text : List Char) : Option (Bool × List Char) × List Char :=
  match text with
  | [] => (none, [])
  | c :: after =>
    if c = 'e' ∨ c = 'E' then
      let (negative, after) := exponentSign after
      let (digits, rest) := digitRun after
      (some (negative, digits), rest)
    else (none, text)

/-- An integer, kept exactly in 64 bits, as a string of its digits in 128 bits. -/
def integer? (negative : Bool) (digits : List Char) : Option Value :=
  let magnitude := Nat.ofDigitChars 10 digits 0
  let narrow := if negative then Nat.pow 2 63 + 1 else Nat.pow 2 64
  let wide := if negative then Nat.pow 2 127 + 1 else Nat.pow 2 128
  let value : Int := if negative then -(magnitude : Int) else magnitude
  if digits = [] then none
  else if magnitude < narrow then some (.number (.integer value))
  else if magnitude < wide then some (.string (toString value))
  else none

/-- A number with a point or an exponent.  It needs a digit before or after the point, and one in
the exponent if it has an exponent. -/
def real? (negative : Bool) (whole fraction : List Char) (exponent : Option (Bool × List Char)) :
    Option Value :=
  let (exponentNegative, exponentDigits) := exponent.getD (false, ['0'])
  let magnitude := Nat.ofDigitChars 10 exponentDigits 0
  let power : Int := (if exponentNegative then -(magnitude : Int) else magnitude) - fraction.length
  if whole ++ fraction = [] ∨ exponentDigits = [] then none
  else
    some (.number (.real
      (Binary64.ofDecimal negative (Nat.ofDigitChars 10 (whole ++ fraction) 0) power)))

/-- Splits a minus sign from the front of a text. -/
def minusSign : List Char → Bool × List Char
  | '-' :: text => (true, text)
  | text => (false, text)

/-- The number that a text starts with. -/
def number? (text : List Char) : Option (Value × List Char) :=
  let (negative, text) := minusSign text
  let (whole, text) := digitRun text
  let (fraction, text) := fraction? text
  let (exponent, text) := exponent? text
  let value :=
    if fraction.isNone ∧ exponent.isNone then integer? negative whole
    else real? negative whole (fraction.getD []) exponent
  value.map fun value => (value, text)

/-! ## Values -/

/-- The text after `word`, if it starts with that word. -/
def dropWord? : List Char → List Char → Option (List Char)
  | [], text => some text
  | _ :: _, [] => none
  | c :: word, d :: text => if c = d then dropWord? word text else none

/-- The value `value` and the rest, if the text starts with `word`. -/
def literal? (word : String) (value : Value) (text : List Char) : Option (Value × List Char) :=
  (dropWord? word.toList text).map fun rest => (value, rest)

mutual

/-- The value that a text starts with, after blanks, and the text that follows it. -/
def value? : Nat → List Char → Option (Value × List Char)
  | 0, _ => none
  | depth + 1, text =>
    match skipGap text with
    | [] => none
    | c :: text =>
      if c = '{' then (members? depth text).map fun (members, rest) => (.object members, rest)
      else if c = '[' then (items? depth text).map fun (items, rest) => (.array items, rest)
      else if c = '"' then
        (stringTail? text).map fun (content, rest) => (.string (String.ofList content), rest)
      else if c = 'n' then literal? "null" .null (c :: text)
      else if c = 't' then literal? "true" (.bool true) (c :: text)
      else if c = 'f' then literal? "false" (.bool false) (c :: text)
      else if c = '-' ∨ c.isDigit then number? (c :: text)
      else none

/-- The items of an array after its opening bracket or a comma, and the text after its closing
bracket. -/
def items? : Nat → List Char → Option (List Value × List Char)
  | 0, _ => none
  | depth + 1, text =>
    match skipGap text with
    | ']' :: rest => some ([], rest)
    | text =>
      match value? depth text with
      | none => none
      | some (item, rest) =>
        match skipGap rest with
        | ',' :: rest => (items? depth rest).map fun (items, rest) => (item :: items, rest)
        | ']' :: rest => some ([item], rest)
        | _ => none

/-- The members of an object after its opening brace or a comma, and the text after its closing
brace. -/
def members? : Nat → List Char → Option (List (String × Value) × List Char)
  | 0, _ => none
  | depth + 1, text =>
    match skipGap text with
    | '}' :: rest => some ([], rest)
    | '"' :: text =>
      match stringTail? text with
      | none => none
      | some (name, rest) =>
        match skipGap rest with
        | ':' :: rest =>
          match value? depth rest with
          | none => none
          | some (value, rest) =>
            let member := (String.ofList name, value)
            match skipGap rest with
            | ',' :: rest =>
              (members? depth rest).map fun (members, rest) => (member :: members, rest)
            | '}' :: rest => some ([member], rest)
            | _ => none
        | _ => none
    | _ => none

end

/-- The first value of a text. -/
def read? (text : String) : Option Value :=
  (value? (2 * text.toList.length + 1) text.toList).map Prod.fst

end CompileWatch.Json
