import CompileWatch.Proofs.Json.Grammar
import CompileWatch.Proofs.Json.RoundTrip

/-!
# Objects with a foreign member

An object is written with a text from elsewhere in the place of its last value.  If that
text is one value of the grammar, the reader makes of the object what it makes of the
other members and of the text alone.
-/

namespace CompileWatch.Json

/-- Written members, each with the comma behind it. -/
def memberRow (members : List (String × Value)) : List Char :=
  members.flatMap fun (name, value) => writeString name.toList ++ ':' :: (value.write ++ [','])

theorem memberRow_cons (name : String) (value : Value) (members : List (String × Value)) :
    memberRow ((name, value) :: members) =
      writeString name.toList ++ ':' :: (value.write ++ ',' :: memberRow members) := by
  simp [memberRow]

theorem writeMembers_append (members : List (String × Value)) (name : String) (value : Value) :
    Value.writeMembers (members ++ [(name, value)]) =
      memberRow members ++ (writeString name.toList ++ ':' :: value.write) := by
  induction members with
  | nil => simp [memberRow, Value.writeMembers]
  | cons member members ih =>
      obtain ⟨name', value'⟩ := member
      rw [memberRow_cons]
      cases members with
      | nil => simp [memberRow, Value.writeMembers]
      | cons next members =>
          rw [List.cons_append] at ih
          rw [List.cons_append, List.cons_append, Value.writeMembers, ih]
          simp

/-- The reader takes back a row of written members and goes on behind it. -/
theorem members?_memberRow {members : List (String × Value)}
    (hmembers : Value.IntegralMembers members) (depth : Nat) (text : List Char)
    (hdepth : 2 * (memberRow members).length ≤ depth + members.length) :
    members? (depth + members.length) (memberRow members ++ text) =
      (members? depth text).map fun (further, rest) => (members ++ further, rest) := by
  induction members with
  | nil => cases hread : members? depth text <;> simp [memberRow, hread]
  | cons member members ih =>
      obtain ⟨name, value⟩ := member
      -- each member takes one from the bound, and its comma alone makes up for that
      simp only [memberRow_cons, List.length_append, List.length_cons] at hdepth
      rw [List.length_cons, ← Nat.add_assoc, memberRow_cons, List.append_assoc, List.cons_append,
        List.append_assoc, List.cons_append, members?_written,
        value?_write value hmembers.1 _ _ (by omega) (ends_cons (by decide) _)]
      simp only [Option.bind_some, skipGap_cons (show isGap ',' = false by decide),
        ih hmembers.2 (by omega), Option.map_map]
      rfl

theorem length_le_memberRow (members : List (String × Value)) :
    members.length ≤ (memberRow members).length := by
  induction members with
  | nil => simp
  | cons member members ih =>
      obtain ⟨name, value⟩ := member
      simp only [memberRow_cons, List.length_append, List.length_cons]
      omega

/-- The text of an object whose last value is written as `text`. -/
def objectWith (members : List (String × Value)) (name : String) (text : List Char) : List Char :=
  '{' :: (memberRow members ++ (writeString name.toList ++ ':' :: (text ++ ['}'])))

theorem objectWith_eq_append (members : List (String × Value)) (name : String)
    (text : List Char) :
    objectWith members name text =
      '{' :: (memberRow members ++ (writeString name.toList ++ [':'])) ++ (text ++ ['}']) := by
  simp [objectWith]

theorem write_object_append (members : List (String × Value)) (name : String) (value : Value) :
    (Value.object (members ++ [(name, value)])).write = objectWith members name value.write := by
  simp [Value.write, writeMembers_append, objectWith]

/-- The reader takes back the members in front of the last one, and goes on with that one. -/
theorem read?_objectWith_eq {members : List (String × Value)}
    (hmembers : Value.IntegralMembers members) (name : String) (text : List Char) :
    ∃ depth, 2 * text.length ≤ depth ∧
      read? (String.ofList (objectWith members name text)) =
        (members? (depth + 1) (writeString name.toList ++ ':' :: (text ++ ['}']))).map
          fun (further, _) => .object (members ++ further) := by
  have hrow := length_le_memberRow members
  have hlength : (objectWith members name text).length =
      (memberRow members).length + (writeString name.toList).length + text.length + 3 := by
    simp only [objectWith, List.length_cons, List.length_append, List.length_nil]
    omega
  obtain ⟨depth, hdepth⟩ : ∃ depth,
      2 * (objectWith members name text).length = depth + 1 + members.length :=
    ⟨2 * (objectWith members name text).length - 1 - members.length, by omega⟩
  refine ⟨depth, by omega, ?_⟩
  rw [read?, String.toList_ofList, hdepth, objectWith, value?_object,
    members?_memberRow hmembers _ _ (by omega), Option.map_map, Option.map_map]
  rfl

/-- Whatever stands in the place of the last value, the reader takes back the members in front of
it, if it makes anything of the object. -/
theorem exists_read_objectWith {members : List (String × Value)}
    (hmembers : Value.IntegralMembers members) {name : String} {text : List Char} {value : Value}
    (hread : read? (String.ofList (objectWith members name text)) = some value) :
    ∃ further, value = .object (members ++ further) := by
  obtain ⟨depth, -, hobject⟩ := read?_objectWith_eq hmembers name text
  rw [hobject, Option.map_eq_some_iff] at hread
  obtain ⟨⟨further, rest⟩, -, hvalue⟩ := hread
  exact ⟨further, hvalue.symm⟩

/-- **A text that is one value means inside an object what it means alone.** -/
theorem read?_objectWith {members : List (String × Value)}
    (hmembers : Value.IntegralMembers members) (name : String) {text : String}
    (htext : WellFormed text) :
    read? (String.ofList (objectWith members name text.toList)) =
      (read? text).map fun value => .object (members ++ [(name, value)]) := by
  obtain ⟨result, gap, hgap, hread⟩ := Derives.reads htext
  obtain ⟨depth, hdepth, hobject⟩ := read?_objectWith_eq hmembers name text.toList
  have halone := hread (2 * text.toList.length + 1) [] (by omega) ends_nil
  have hinside := hread depth ['}'] hdepth (ends_cons (by decide) [])
  have hclose : skipGap (gap ++ ['}']) = ['}'] := skipGap_append_cons hgap (by decide) []
  rw [List.append_nil] at halone
  rw [hobject, members?_written, hinside, read?, halone]
  cases result with
  | none => rfl
  | some value => simp [hclose]

end CompileWatch.Json
