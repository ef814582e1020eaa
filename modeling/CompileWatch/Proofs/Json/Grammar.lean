import CompileWatch.Proofs.Json.Step

/-!
# The grammar of JSON texts

The texts that are one value, with blanks allowed around every token inside it.  The
grammar has what the standard has and the few things more that the reader knows: a comma
before a closing bracket or brace, control characters and further escapes in a string,
and rows of digits of any form in a number.

A derived text may still be refused, because of half a pair of code units, an integer
that is too large or a number without digits.  `Derives.reads` says that in front of any
text that does not carry on a number, the reader takes exactly the derived text and that
what it makes of it is the same every time.
-/

namespace CompileWatch.Json

/-- The kinds of texts that the grammar derives. -/
inductive Symbol
  | value
  /-- A value with blanks around it. -/
  | spaced
  /-- The items of an array, up to and including its closing bracket. -/
  | items
  /-- The members of an object, up to and including its closing brace. -/
  | members

/-- The texts of each kind. -/
inductive Derives : Symbol → List Char → Prop
  | null : Derives .value "null".toList
  | bool (value : Bool) : Derives .value (if value then "true" else "false").toList
  | number {text : List Char} : NumberText text → Derives .value text
  | string {content : List Char} : StringText content → Derives .value ('"' :: (content ++ ['"']))
  | array {text : List Char} : Derives .items text → Derives .value ('[' :: text)
  | object {text : List Char} : Derives .members text → Derives .value ('{' :: text)
  | spaced {before text after : List Char} : Gap before → Derives .value text → Gap after →
      Derives .spaced (before ++ (text ++ after))
  | closeItems {gap : List Char} : Gap gap → Derives .items (gap ++ [']'])
  | lastItem {text : List Char} : Derives .spaced text → Derives .items (text ++ [']'])
  | nextItem {text rest : List Char} : Derives .spaced text → Derives .items rest →
      Derives .items (text ++ ',' :: rest)
  | closeMembers {gap : List Char} : Gap gap → Derives .members (gap ++ ['}'])
  | lastMember {before name middle text : List Char} : Gap before → StringText name →
      Gap middle → Derives .spaced text →
      Derives .members (before ++ '"' :: (name ++ '"' :: (middle ++ ':' :: (text ++ ['}']))))
  | nextMember {before name middle text rest : List Char} : Gap before → StringText name →
      Gap middle → Derives .spaced text → Derives .members rest →
      Derives .members
        (before ++ '"' :: (name ++ '"' :: (middle ++ ':' :: (text ++ ',' :: rest))))

/-- One value, with blanks around it. -/
def WellFormed (text : String) : Prop :=
  Derives .spaced text.toList

/-! ## Where a text begins -/

/-- A value begins neither with a blank nor with a closing bracket. -/
theorem Derives.exists_cons {text : List Char} (htext : Derives .value text) :
    ∃ c rest, text = c :: rest ∧ isGap c = false ∧ c ≠ ']' := by
  cases htext with
  | null => exact ⟨'n', _, rfl, by decide, by decide⟩
  | bool value =>
      cases value with
      | false => exact ⟨'f', _, rfl, by decide, by decide⟩
      | true => exact ⟨'t', _, rfl, by decide, by decide⟩
  | number hnumber =>
      obtain ⟨c, rest, rfl, hc⟩ := hnumber.exists_cons
      refine ⟨c, rest, rfl, isGap_of_number hc, ?_⟩
      rintro rfl
      exact absurd hc (by decide)
  | string => exact ⟨'"', _, rfl, by decide, by decide⟩
  | array => exact ⟨'[', _, rfl, by decide, by decide⟩
  | object => exact ⟨'{', _, rfl, by decide, by decide⟩

/-- No closing bracket stands where an item begins. -/
theorem Derives.head?_skipGap {text : List Char} (htext : Derives .spaced text)
    (rest : List Char) : (skipGap (text ++ rest)).head? ≠ some ']' := by
  cases htext with
  | @spaced before text after hbefore htext hafter =>
      obtain ⟨c, tail, rfl, hgap, hc⟩ := htext.exists_cons
      rw [List.append_assoc, skipGap_append hbefore, List.cons_append, List.cons_append,
        skipGap_cons hgap]
      intro h
      exact hc (by simpa using h)

/-! ## Reading -/

/-- What it means for the reader to take exactly the given text and to make the same of it in
front of any further text.  Reading a value leaves the blanks behind it. -/
def Reads : Symbol → List Char → Prop
  | .value, text => ∃ result : Option Value, ∀ depth rest, 2 * text.length ≤ depth → Ends rest →
      value? depth (text ++ rest) = result.map fun value => (value, rest)
  | .spaced, text => ∃ (result : Option Value) (gap : List Char), Gap gap ∧ ∀ depth rest,
      2 * text.length ≤ depth → Ends rest →
      value? depth (text ++ rest) = result.map fun value => (value, gap ++ rest)
  | .items, text => ∃ result : Option (List Value), ∀ depth rest, 2 * text.length ≤ depth →
      items? depth (text ++ rest) = result.map fun items => (items, rest)
  | .members, text => ∃ result : Option (List (String × Value)), ∀ depth rest,
      2 * text.length ≤ depth →
      members? depth (text ++ rest) = result.map fun members => (members, rest)

/-- A bound that covers a nonempty text is a successor. -/
theorem exists_depth {text : List Char} (htext : text ≠ []) {depth : Nat}
    (hdepth : 2 * text.length ≤ depth) :
    ∃ below, depth = below + 1 ∧ 2 * text.length ≤ below + 1 := by
  have hlength : 0 < text.length := List.length_pos_of_ne_nil htext
  exact ⟨depth - 1, by omega, by omega⟩

namespace Reads

variable {before text after name middle tail : List Char}

theorem null : Reads .value "null".toList := by
  refine ⟨some .null, fun depth rest hdepth _ => ?_⟩
  obtain ⟨below, rfl, -⟩ := exists_depth (by decide) hdepth
  exact value?_null below rest

theorem bool (value : Bool) : Reads .value (if value then "true" else "false").toList := by
  refine ⟨some (.bool value), fun depth rest hdepth _ => ?_⟩
  obtain ⟨below, rfl, -⟩ := exists_depth (by cases value <;> decide) hdepth
  exact value?_bool below value rest

theorem number (hnumber : NumberText text) : Reads .value text := by
  obtain ⟨result, hread⟩ := hnumber.exists_read
  obtain ⟨c, tail, rfl, hc⟩ := hnumber.exists_cons
  refine ⟨result, fun depth rest hdepth hrest => ?_⟩
  obtain ⟨below, rfl, -⟩ := exists_depth (by simp) hdepth
  rw [List.cons_append, value?_number hc, ← List.cons_append, hread rest hrest]

theorem string (hcontent : StringText text) : Reads .value ('"' :: (text ++ ['"'])) := by
  obtain ⟨result, hread⟩ := hcontent.exists_read
  refine ⟨result.map fun content => .string (String.ofList content), fun depth rest hdepth _ => ?_⟩
  obtain ⟨below, rfl, -⟩ := exists_depth (by simp) hdepth
  simp only [List.cons_append, List.append_assoc, List.nil_append, value?_string, hread]
  cases result <;> rfl

theorem array (hitems : Reads .items text) : Reads .value ('[' :: text) := by
  obtain ⟨result, hread⟩ := hitems
  refine ⟨result.map .array, fun depth rest hdepth _ => ?_⟩
  obtain ⟨below, rfl, hbelow⟩ := exists_depth (by simp) hdepth
  rw [List.length_cons] at hbelow
  rw [List.cons_append, value?_array, hread below rest (by omega)]
  cases result <;> rfl

theorem object (hmembers : Reads .members text) : Reads .value ('{' :: text) := by
  obtain ⟨result, hread⟩ := hmembers
  refine ⟨result.map .object, fun depth rest hdepth _ => ?_⟩
  obtain ⟨below, rfl, hbelow⟩ := exists_depth (by simp) hdepth
  rw [List.length_cons] at hbelow
  rw [List.cons_append, value?_object, hread below rest (by omega)]
  cases result <;> rfl

theorem spaced (hbefore : Gap before) (htext : Reads .value text) (hafter : Gap after) :
    Reads .spaced (before ++ (text ++ after)) := by
  obtain ⟨result, hread⟩ := htext
  refine ⟨result, after, hafter, fun depth rest hdepth hrest => ?_⟩
  simp only [List.length_append] at hdepth
  -- the blanks behind the value end it too, if it is a number
  rw [List.append_assoc, value?_gap hbefore, List.append_assoc,
    hread depth (after ++ rest) (by omega) (ends_append hafter hrest)]

/-! ### Items -/

theorem closeItems (hgap : Gap before) : Reads .items (before ++ [']']) := by
  refine ⟨some [], fun depth rest hdepth => ?_⟩
  obtain ⟨below, rfl, -⟩ := exists_depth (by simp) hdepth
  rw [List.append_assoc, List.singleton_append, items?_close hgap]
  rfl

theorem lastItem (hitem : Reads .spaced text)
    (hhead : ∀ rest, (skipGap (text ++ rest)).head? ≠ some ']') :
    Reads .items (text ++ [']']) := by
  obtain ⟨result, gap, hgap, hread⟩ := hitem
  refine ⟨result.map fun item => [item], fun depth rest hdepth => ?_⟩
  obtain ⟨below, rfl, hbelow⟩ := exists_depth (by simp) hdepth
  simp only [List.length_append, List.length_singleton] at hbelow
  rw [List.append_assoc, List.singleton_append, items?_item (hhead _),
    hread below (']' :: rest) (by omega) (ends_cons (by decide) rest)]
  have hclose : skipGap (gap ++ ']' :: rest) = ']' :: rest :=
    skipGap_append_cons hgap (by decide) rest
  cases result with
  | none => rfl
  | some item => simp [hclose]

theorem nextItem (hitem : Reads .spaced text)
    (hhead : ∀ rest, (skipGap (text ++ rest)).head? ≠ some ']') (htail : Reads .items tail) :
    Reads .items (text ++ ',' :: tail) := by
  obtain ⟨result, gap, hgap, hread⟩ := hitem
  obtain ⟨tailResult, hreadTail⟩ := htail
  refine ⟨result.bind fun item => tailResult.map fun items => item :: items,
    fun depth rest hdepth => ?_⟩
  obtain ⟨below, rfl, hbelow⟩ := exists_depth (by simp) hdepth
  simp only [List.length_append, List.length_cons] at hbelow
  rw [List.append_assoc, List.cons_append, items?_item (hhead _),
    hread below (',' :: (tail ++ rest)) (by omega) (ends_cons (by decide) _)]
  have hcomma : skipGap (gap ++ ',' :: (tail ++ rest)) = ',' :: (tail ++ rest) :=
    skipGap_append_cons hgap (by decide) _
  cases result with
  | none => rfl
  | some item =>
      simp only [Option.map_some, Option.bind_some, hcomma, hreadTail below rest (by omega)]
      cases tailResult <;> rfl

/-! ### Members -/

theorem closeMembers (hgap : Gap before) : Reads .members (before ++ ['}']) := by
  refine ⟨some [], fun depth rest hdepth => ?_⟩
  obtain ⟨below, rfl, -⟩ := exists_depth (by simp) hdepth
  rw [List.append_assoc, List.singleton_append, members?_close hgap]
  rfl

theorem lastMember (hbefore : Gap before) (hname : StringText name) (hmiddle : Gap middle)
    (hvalue : Reads .spaced text) :
    Reads .members (before ++ '"' :: (name ++ '"' :: (middle ++ ':' :: (text ++ ['}'])))) := by
  obtain ⟨result, gap, hgap, hread⟩ := hvalue
  obtain ⟨nameResult, hreadName⟩ := hname.exists_read
  refine ⟨nameResult.bind fun name => result.map fun value => [(String.ofList name, value)],
    fun depth rest hdepth => ?_⟩
  obtain ⟨below, rfl, hbelow⟩ := exists_depth (by simp) hdepth
  simp only [List.length_append, List.length_cons, List.length_nil] at hbelow
  simp only [List.append_assoc, List.cons_append, List.nil_append,
    members?_member hbefore hreadName hmiddle]
  rw [hread below ('}' :: rest) (by omega) (ends_cons (by decide) rest)]
  have hclose : skipGap (gap ++ '}' :: rest) = '}' :: rest :=
    skipGap_append_cons hgap (by decide) rest
  cases nameResult with
  | none => rfl
  | some read =>
      cases result with
      | none => rfl
      | some value => simp [hclose]

theorem nextMember (hbefore : Gap before) (hname : StringText name) (hmiddle : Gap middle)
    (hvalue : Reads .spaced text) (htail : Reads .members tail) :
    Reads .members
      (before ++ '"' :: (name ++ '"' :: (middle ++ ':' :: (text ++ ',' :: tail)))) := by
  obtain ⟨result, gap, hgap, hread⟩ := hvalue
  obtain ⟨tailResult, hreadTail⟩ := htail
  obtain ⟨nameResult, hreadName⟩ := hname.exists_read
  refine ⟨nameResult.bind fun name => result.bind fun value =>
    tailResult.map fun members => (String.ofList name, value) :: members,
    fun depth rest hdepth => ?_⟩
  obtain ⟨below, rfl, hbelow⟩ := exists_depth (by simp) hdepth
  simp only [List.length_append, List.length_cons] at hbelow
  simp only [List.append_assoc, List.cons_append, members?_member hbefore hreadName hmiddle]
  rw [hread below (',' :: (tail ++ rest)) (by omega) (ends_cons (by decide) _)]
  have hcomma : skipGap (gap ++ ',' :: (tail ++ rest)) = ',' :: (tail ++ rest) :=
    skipGap_append_cons hgap (by decide) _
  cases nameResult with
  | none => rfl
  | some read =>
      cases result with
      | none => rfl
      | some value =>
          simp only [Option.map_some, Option.bind_some, hcomma, hreadTail below rest (by omega)]
          cases tailResult <;> rfl

end Reads

/-- **The reader takes exactly what the grammar derives.** -/
theorem Derives.reads {symbol : Symbol} {text : List Char} (htext : Derives symbol text) :
    Reads symbol text := by
  induction htext with
  | null => exact .null
  | bool value => exact .bool value
  | number hnumber => exact .number hnumber
  | string hcontent => exact .string hcontent
  | array _ hitems => exact .array hitems
  | object _ hmembers => exact .object hmembers
  | spaced hbefore _ hafter hvalue => exact .spaced hbefore hvalue hafter
  | closeItems hgap => exact .closeItems hgap
  | lastItem hitem hread => exact .lastItem hread hitem.head?_skipGap
  | nextItem hitem _ hread htail => exact .nextItem hread hitem.head?_skipGap htail
  | closeMembers hgap => exact .closeMembers hgap
  | lastMember hbefore hname hmiddle _ hread => exact .lastMember hbefore hname hmiddle hread
  | nextMember hbefore hname hmiddle _ _ hread htail =>
      exact .nextMember hbefore hname hmiddle hread htail

end CompileWatch.Json
