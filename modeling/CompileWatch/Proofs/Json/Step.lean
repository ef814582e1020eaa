import CompileWatch.Proofs.Json.Token

/-!
# Steps of the reader

What the reader does with an array or an object, one item or member at a time.  A step
starts from what the reader makes of the first item, and from a bound that is one above
the bound with which it reads that item.
-/

namespace CompileWatch.Json

/-! ## Values -/

theorem value?_skipGap (depth : Nat) (text : List Char) :
    value? depth (skipGap text) = value? depth text := by
  cases depth with
  | zero => rfl
  | succ depth =>
      have hskip : skipGap (skipGap text) = skipGap text := List.dropWhile_idempotent isGap text
      rw [value?, value?, hskip]

theorem value?_gap {gap : List Char} (hgap : Gap gap) (depth : Nat) (text : List Char) :
    value? depth (gap ++ text) = value? depth text := by
  rw [← value?_skipGap, skipGap_append hgap, value?_skipGap]

theorem value?_null (depth : Nat) (rest : List Char) :
    value? (depth + 1) ("null".toList ++ rest) = some (.null, rest) :=
  rfl

theorem value?_bool (depth : Nat) (value : Bool) (rest : List Char) :
    value? (depth + 1) ((if value then "true" else "false").toList ++ rest) =
      some (.bool value, rest) := by
  cases value <;> rfl

theorem value?_string (depth : Nat) (text : List Char) :
    value? (depth + 1) ('"' :: text) =
      (stringTail? text).map fun (content, rest) => (.string (String.ofList content), rest) :=
  rfl

theorem value?_array (depth : Nat) (text : List Char) :
    value? (depth + 1) ('[' :: text) =
      (items? depth text).map fun (items, rest) => (.array items, rest) :=
  rfl

theorem value?_object (depth : Nat) (text : List Char) :
    value? (depth + 1) ('{' :: text) =
      (members? depth text).map fun (members, rest) => (.object members, rest) :=
  rfl

theorem value?_number {c : Char} (hc : c = '-' ∨ c.isDigit) (depth : Nat) (text : List Char) :
    value? (depth + 1) (c :: text) = number? (c :: text) := by
  have hother : ∀ d : Char, ¬(d = '-' ∨ d.isDigit) → c ≠ d := by
    rintro d hd rfl
    exact hd hc
  rw [value?, skipGap_cons (isGap_of_number hc)]
  simp only [hother '{' (by decide), hother '[' (by decide), hother '"' (by decide),
    hother 'n' (by decide), hother 't' (by decide), hother 'f' (by decide), hc, if_true, if_false]

/-! ## Items -/

theorem items?_close {gap : List Char} (hgap : Gap gap) (depth : Nat) (rest : List Char) :
    items? (depth + 1) (gap ++ ']' :: rest) = some ([], rest) := by
  rw [items?, skipGap_append_cons hgap (by decide)]
  rfl

/-- The reader takes what does not start with a closing bracket for an item. -/
theorem items?_item {text : List Char} (htext : (skipGap text).head? ≠ some ']') (depth : Nat) :
    items? (depth + 1) text =
      (value? depth text).bind fun (item, rest) =>
        match skipGap rest with
        | ',' :: rest => (items? depth rest).map fun (items, rest) => (item :: items, rest)
        | ']' :: rest => some ([item], rest)
        | _ => none := by
  rw [items?]
  split
  · rename_i heq
    exact absurd (by rw [heq]; rfl) htext
  · rw [value?_skipGap]
    cases value? depth text <;> rfl

/-! ## Members -/

theorem members?_close {gap : List Char} (hgap : Gap gap) (depth : Nat) (rest : List Char) :
    members? (depth + 1) (gap ++ '}' :: rest) = some ([], rest) := by
  rw [members?, skipGap_append_cons hgap (by decide)]
  rfl

theorem members?_member {gap name : List Char} {result : Option (List Char)} (hgap : Gap gap)
    (hname : ∀ rest, stringTail? (name ++ '"' :: rest) = result.map fun read => (read, rest))
    {middle : List Char} (hmiddle : Gap middle) (depth : Nat) (text : List Char) :
    members? (depth + 1) (gap ++ '"' :: (name ++ '"' :: (middle ++ ':' :: text))) =
      result.bind fun name =>
        (value? depth text).bind fun (value, rest) =>
          match skipGap rest with
          | ',' :: rest => (members? depth rest).map fun (members, rest) =>
            ((String.ofList name, value) :: members, rest)
          | '}' :: rest => some ([(String.ofList name, value)], rest)
          | _ => none := by
  rw [members?, skipGap_append_cons hgap (by decide)]
  simp only [hname]
  cases result with
  | none => rfl
  | some read =>
      have hcolon : skipGap (middle ++ ':' :: text) = ':' :: text :=
        skipGap_append_cons hmiddle (by decide) text
      simp only [Option.map_some, Option.bind_some, hcolon]
      cases value? depth text <;> rfl

end CompileWatch.Json
