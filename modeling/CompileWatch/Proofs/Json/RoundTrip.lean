import CompileWatch.Json.Writer
import CompileWatch.Proofs.Json.Step

/-!
# Reading back what was written

The reader takes back every value whose numbers are integers of 64 bits, with a sign or
without.  A real number is out of place here: it may be written as an integer, and an
infinity is written as `null`.
-/

namespace CompileWatch.Json

/-! ## Strings -/

/-- The reader takes an escaped character for the character itself. -/
theorem stringTail?_escapeChar (c : Char) (text : List Char) :
    stringTail? (escapeChar c ++ text) = prepend c (stringTail? text) := by
  have hunits : ∀ n < 0x20, codeUnit? '0' '0' (hexDigit (n / 16)) (hexDigit (n % 16)) = some n ∧
      isHighSurrogate n = false ∧ isLowSurrogate n = false := by
    decide
  unfold escapeChar
  split_ifs with hquote hbackslash hn hr ht hb hf hcontrol
  · rw [hquote]
    exact stringTail?_escape rfl text
  · rw [hbackslash]
    exact stringTail?_escape rfl text
  · rw [hn]
    exact stringTail?_escape rfl text
  · rw [hr]
    exact stringTail?_escape rfl text
  · rw [ht]
    exact stringTail?_escape rfl text
  · rw [hb]
    exact stringTail?_escape rfl text
  · rw [hf]
    exact stringTail?_escape rfl text
  · obtain ⟨hunit, hhigh, hlow⟩ := hunits c.toNat hcontrol
    have hread := stringTail?_codeUnit hunit text
    simp only [hhigh, hlow, Char.ofNat_toNat] at hread
    exact hread
  · exact stringTail?_plain hquote hbackslash text

theorem stringTail?_escaped (content rest : List Char) :
    stringTail? (content.flatMap escapeChar ++ '"' :: rest) = some (content, rest) := by
  induction content with
  | nil => exact stringTail?_quote rest
  | cons c content ih =>
      rw [List.flatMap_cons, List.append_assoc, stringTail?_escapeChar, ih]
      rfl

/-! ## Integers -/

/-- An integer that fits in 64 bits, with a sign or without. -/
def Fits64 (value : Int) : Prop :=
  -2 ^ 63 ≤ value ∧ value < 2 ^ 64

theorem write_integer (value : Int) : (Number.integer value).write = (toString value).toList := by
  simp only [Number.write, Number.signed64?, Number.unsigned64?, Number.integerWithin?]
  split_ifs <;> rfl

/-- The digits of a natural number, behind a sign. -/
theorem number?_digits {sign : List Char} (hsign : sign = [] ∨ sign = ['-']) (n : Nat)
    {rest : List Char} (hrest : Ends rest) :
    number? (sign ++ (Nat.toDigits 10 n ++ rest)) =
      (integer? (decide (sign ≠ [])) (Nat.toDigits 10 n)).map fun value => (value, rest) := by
  have hdigits : Digits (Nat.toDigits 10 n) := fun c hc =>
    Nat.isDigit_of_mem_toDigits (by decide) (by decide) hc
  have hstart : sign ++ Nat.toDigits 10 n ≠ [] := by simp [Nat.toDigits_ne_nil]
  have hafter : ∀ c ∈ rest.head?, c.isDigit = false ∧ c ≠ '.' :=
    ExponentText.absent.head?_append hrest
  simp only [number?, minusSign_append hsign hdigits hstart,
    digitRun_append hdigits fun c hc => (hafter c hc).1,
    fraction?_absent fun c hc => (hafter c hc).2, exponent?_absent hrest, Option.isNone_none,
    and_self, if_true]

theorem integer?_digits {negative : Bool} {n : Nat}
    (hn : n < if negative then 2 ^ 63 + 1 else 2 ^ 64) :
    integer? negative (Nat.toDigits 10 n) =
      some (.number (.integer (if negative then -(n : Int) else n))) := by
  have hnarrow : n < if negative then Nat.pow 2 63 + 1 else Nat.pow 2 64 := hn
  simp only [integer?, Nat.ofDigitChars_ten_toDigits, if_neg Nat.toDigits_ne_nil, if_pos hnarrow]

theorem toList_toString (value : Int) :
    (toString value).toList =
      (if value < 0 then ['-'] else []) ++ Nat.toDigits 10 value.natAbs := by
  cases value with
  | ofNat n => exact Nat.toList_repr
  | negSucc n =>
      rw [show toString (Int.negSucc n) = "-" ++ Nat.repr (n + 1) from rfl, String.toList_append,
        Nat.toList_repr, if_pos (Int.negSucc_lt_zero n)]
      rfl

/-- An integer is written as a number. -/
theorem numberText_toString (value : Int) : NumberText (toString value).toList := by
  have hsign : (if value < 0 then ['-'] else []) = [] ∨
      (if value < 0 then ['-'] else []) = ['-'] := by
    split_ifs <;> simp
  have hdigits : Digits (Nat.toDigits 10 value.natAbs) := fun c hc =>
    Nat.isDigit_of_mem_toDigits (by decide) (by decide) hc
  have htext := NumberText.parts hsign hdigits .absent .absent (by simp [Nat.toDigits_ne_nil])
  rwa [List.append_nil, List.append_nil, ← toList_toString] at htext

/-- The reader takes back an integer of 64 bits in front of a text that does not carry it on. -/
theorem number?_integer {value : Int} (hvalue : Fits64 value) {rest : List Char}
    (hrest : Ends rest) :
    number? ((toString value).toList ++ rest) = some (.number (.integer value), rest) := by
  obtain ⟨hleast, hgreatest⟩ := hvalue
  rw [toList_toString, List.append_assoc]
  by_cases hnegative : value < 0
  · have hmagnitude : value.natAbs < 2 ^ 63 + 1 := by omega
    have hopposite : -(value.natAbs : Int) = value := by omega
    have hread := number?_digits (.inr rfl) value.natAbs hrest
    rw [if_pos hnegative]
    rw [integer?_digits hmagnitude] at hread
    exact hread.trans (congrArg (fun value => some (Value.number (.integer value), rest)) hopposite)
  · have hmagnitude : value.natAbs < 2 ^ 64 := by omega
    have hsame : (value.natAbs : Int) = value := by omega
    have hread := number?_digits (.inl rfl) value.natAbs hrest
    rw [if_neg hnegative]
    rw [integer?_digits hmagnitude] at hread
    exact hread.trans (congrArg (fun value => some (Value.number (.integer value), rest)) hsame)

/-! ## Values -/

namespace Value

mutual

/-- All numbers in a value are integers of 64 bits. -/
def Integral : Value → Prop
  | .null => True
  | .bool _ => True
  | .number (.integer value) => Fits64 value
  | .number (.real _) => False
  | .string _ => True
  | .array items => IntegralItems items
  | .object members => IntegralMembers members

/-- All numbers in the items of an array are integers of 64 bits. -/
def IntegralItems : List Value → Prop
  | [] => True
  | item :: rest => item.Integral ∧ IntegralItems rest

/-- All numbers in the members of an object are integers of 64 bits. -/
def IntegralMembers : List (String × Value) → Prop
  | [] => True
  | (_, value) :: rest => value.Integral ∧ IntegralMembers rest

end

theorem integralItems_iff (items : List Value) :
    IntegralItems items ↔ ∀ item ∈ items, item.Integral := by
  induction items with
  | nil => simp [IntegralItems]
  | cons item items ih => rw [IntegralItems, ih, List.forall_mem_cons]

theorem integralMembers_iff (members : List (String × Value)) :
    IntegralMembers members ↔ ∀ member ∈ members, member.2.Integral := by
  induction members with
  | nil => simp [IntegralMembers]
  | cons member members ih => rw [IntegralMembers, ih, List.forall_mem_cons]

/-- A written value begins neither with a blank nor with a closing bracket. -/
theorem write_exists_cons {value : Value} (hvalue : value.Integral) :
    ∃ c text, value.write = c :: text ∧ isGap c = false ∧ c ≠ ']' := by
  cases value with
  | null => exact ⟨'n', _, rfl, by decide, by decide⟩
  | bool value =>
      cases value with
      | false => exact ⟨'f', _, rfl, by decide, by decide⟩
      | true => exact ⟨'t', _, rfl, by decide, by decide⟩
  | number number =>
      cases number with
      | integer value =>
          obtain ⟨c, text, htext, hc⟩ := (numberText_toString value).exists_cons
          refine ⟨c, text, ?_, isGap_of_number hc, ?_⟩
          · rw [write, write_integer, htext]
          · rintro rfl
            exact absurd hc (by decide)
      | real value => exact absurd hvalue (by simp [Integral])
  | string text => exact ⟨'"', _, rfl, by decide, by decide⟩
  | array items => exact ⟨'[', _, rfl, by decide, by decide⟩
  | object members => exact ⟨'{', _, rfl, by decide, by decide⟩

end Value

theorem members?_written (name : String) (depth : Nat) (text : List Char) :
    members? (depth + 1) (writeString name.toList ++ ':' :: text) =
      (value? depth text).bind fun (value, rest) =>
        match skipGap rest with
        | ',' :: rest => (members? depth rest).map fun (members, rest) =>
          ((name, value) :: members, rest)
        | '}' :: rest => some ([(name, value)], rest)
        | _ => none := by
  have hname : ∀ rest, stringTail? (name.toList.flatMap escapeChar ++ '"' :: rest) =
      (some name.toList).map fun read => (read, rest) :=
    stringTail?_escaped name.toList
  have hmember := members?_member gap_nil hname gap_nil depth text
  rw [Option.bind_some, String.ofList_toList] at hmember
  rw [writeString, List.cons_append, List.append_assoc]
  exact hmember

mutual

/-- **The reader takes back what was written**, in front of any text that does not carry on a
number. -/
theorem value?_write (value : Value) (hvalue : value.Integral) (depth : Nat) (rest : List Char)
    (hdepth : 2 * value.write.length ≤ depth) (hrest : Ends rest) :
    value? depth (value.write ++ rest) = some (value, rest) := by
  obtain ⟨c, text, htext, -, -⟩ := Value.write_exists_cons hvalue
  obtain ⟨depth, rfl⟩ : ∃ below, depth = below + 1 := by
    refine ⟨depth - 1, ?_⟩
    rw [htext, List.length_cons] at hdepth
    omega
  match value with
  | .null => exact value?_null depth rest
  | .bool value => exact value?_bool depth value rest
  | .number (.integer value) =>
      obtain ⟨c, text, htext, hc⟩ := (numberText_toString value).exists_cons
      rw [Value.write, write_integer, ← number?_integer hvalue hrest, htext, List.cons_append,
        value?_number hc]
  | .number (.real value) => exact absurd hvalue (by simp [Value.Integral])
  | .string text =>
      simp only [Value.write, writeString, List.cons_append, List.append_assoc, value?_string,
        List.nil_append, stringTail?_escaped, Option.map_some, String.ofList_toList]
  | .array items =>
      rw [Value.write, List.length_cons, List.length_append, List.length_singleton] at hdepth
      rw [Value.write, List.cons_append, List.append_assoc, value?_array,
        List.singleton_append, items?_write items hvalue depth rest (by omega)]
      rfl
  | .object members =>
      rw [Value.write, List.length_cons, List.length_append, List.length_singleton] at hdepth
      rw [Value.write, List.cons_append, List.append_assoc, value?_object,
        List.singleton_append, members?_write members hvalue depth rest (by omega)]
      rfl

theorem items?_write (items : List Value) (hitems : Value.IntegralItems items) (depth : Nat)
    (rest : List Char) (hdepth : 2 * (Value.writeItems items).length + 1 ≤ depth) :
    items? depth (Value.writeItems items ++ ']' :: rest) = some (items, rest) := by
  obtain ⟨depth, rfl⟩ : ∃ below, depth = below + 1 := ⟨depth - 1, by omega⟩
  match items with
  | [] => exact items?_close gap_nil depth rest
  | [item] =>
      obtain ⟨c, text, htext, hgap, hc⟩ := Value.write_exists_cons hitems.1
      rw [Value.writeItems] at hdepth ⊢
      rw [items?_item, value?_write item hitems.1 depth _ (by omega) (ends_cons (by decide) rest)]
      · rfl
      · rw [htext, List.cons_append, skipGap_cons hgap]
        simpa using hc
  | item :: next :: tail =>
      obtain ⟨c, text, htext, hgap, hc⟩ := Value.write_exists_cons hitems.1
      rw [Value.writeItems, List.length_append, List.length_cons] at hdepth
      rw [Value.writeItems, List.append_assoc, List.cons_append, items?_item,
        value?_write item hitems.1 depth _ (by omega) (ends_cons (by decide) _)]
      · have hread := items?_write (next :: tail) hitems.2 depth rest (by omega)
        simp only [Option.bind_some, skipGap_cons (show isGap ',' = false by decide), hread]
        rfl
      · rw [htext, List.cons_append, skipGap_cons hgap]
        simpa using hc

theorem members?_write (members : List (String × Value)) (hmembers : Value.IntegralMembers members)
    (depth : Nat) (rest : List Char)
    (hdepth : 2 * (Value.writeMembers members).length + 1 ≤ depth) :
    members? depth (Value.writeMembers members ++ '}' :: rest) = some (members, rest) := by
  obtain ⟨depth, rfl⟩ : ∃ below, depth = below + 1 := ⟨depth - 1, by omega⟩
  match members with
  | [] => exact members?_close gap_nil depth rest
  | [(name, value)] =>
      simp only [Value.writeMembers, List.length_append, List.length_cons] at hdepth
      rw [Value.writeMembers, List.append_assoc, List.cons_append, members?_written,
        value?_write value hmembers.1 depth _ (by omega) (ends_cons (by decide) rest)]
      rfl
  | (name, value) :: next :: tail =>
      simp only [Value.writeMembers, List.length_append, List.length_cons] at hdepth
      have hread := members?_write (next :: tail) hmembers.2 depth rest (by omega)
      rw [Value.writeMembers, List.append_assoc, List.cons_append, List.append_assoc,
        List.cons_append, members?_written,
        value?_write value hmembers.1 depth _ (by omega) (ends_cons (by decide) _)]
      simp only [Option.bind_some, skipGap_cons (show isGap ',' = false by decide), hread]
      rfl

end

/-- The text of a value is read as that value. -/
theorem read?_render {value : Value} (hvalue : value.Integral) :
    read? value.render = some value := by
  have hread := value?_write value hvalue (2 * value.write.length + 1) [] (by omega) ends_nil
  rw [read?, Value.render, String.toList_ofList]
  rw [List.append_nil] at hread
  rw [hread]
  rfl

end CompileWatch.Json
