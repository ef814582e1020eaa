import CompileWatch.Proofs.Json.Grammar

/-!
# Written objects and arrays

An object is written as its members with commas between them, and an array as its items.  The
reader makes of either what it makes of the members or items one by one.
-/

namespace CompileWatch.Json

/-! ## Single values and members -/

/-- A name without quotes and backslashes is written as it is. -/
theorem StringText.of_plain {text : List Char} (htext : ∀ c ∈ text, c ≠ '"' ∧ c ≠ '\\') :
    StringText text := by
  induction text with
  | nil => exact .nil
  | cons c text ih =>
      rw [List.forall_mem_cons] at htext
      exact .plain htext.1.1 htext.1.2 (ih htext.2)

theorem stringTail?_of_plain {text : List Char} (htext : ∀ c ∈ text, c ≠ '"' ∧ c ≠ '\\')
    (rest : List Char) : stringTail? (text ++ '"' :: rest) = some (text, rest) := by
  induction text with
  | nil => exact stringTail?_quote rest
  | cons c text ih =>
      rw [List.forall_mem_cons] at htext
      rw [List.cons_append, stringTail?_plain htext.1.1 htext.1.2, ih htext.2]
      rfl

/-- The reader takes a value with blanks around it, and leaves some blanks behind. -/
theorem Derives.exists_gap {text : List Char} (htext : Derives .spaced text) :
    ∃ gap, Gap gap ∧ ∀ depth rest, 2 * text.length ≤ depth → Ends rest →
      value? depth (text ++ rest) =
        (read? (String.ofList text)).map fun value => (value, gap ++ rest) := by
  obtain ⟨result, gap, hgap, hread⟩ := htext.reads
  have halone := hread (2 * text.length + 1) [] (by omega) ends_nil
  rw [List.append_nil] at halone
  refine ⟨gap, hgap, fun depth rest hdepth hrest => ?_⟩
  rw [hread depth rest hdepth hrest, Json.read?, String.toList_ofList, halone]
  cases result <;> rfl

/-- A member as it is written, with the blanks around its name. -/
structure MemberText where
  before : List Char
  name : List Char
  middle : List Char
  value : List Char
  gap_before : Gap before
  stringText_name : StringText name
  gap_middle : Gap middle
  spaced_value : Derives .spaced value

namespace MemberText

def text (member : MemberText) : List Char :=
  member.before ++ '"' :: (member.name ++ '"' :: (member.middle ++ ':' :: member.value))

/-- The name that is written. -/
def name? (member : MemberText) : Option String :=
  (stringTail? (member.name ++ ['"'])).map fun (name, _) => String.ofList name

/-- The member that is written. -/
def read? (member : MemberText) : Option (String × Value) :=
  member.name?.bind fun name =>
    (Json.read? (String.ofList member.value)).map fun value => (name, value)

theorem name?_of_read? {member : MemberText} {read : String × Value}
    (hread : member.read? = some read) : member.name? = some read.1 := by
  rw [MemberText.read?, Option.bind_eq_some_iff] at hread
  obtain ⟨name, hname, hvalue⟩ := hread
  obtain ⟨value, -, rfl⟩ := Option.map_eq_some_iff.mp hvalue
  exact hname

/-- The reader takes a member, and goes on behind it after some blanks. -/
theorem exists_gap (member : MemberText) :
    ∃ gap, Gap gap ∧ ∀ depth rest, 2 * member.text.length ≤ depth + 1 → Ends rest →
      members? (depth + 1) (member.text ++ rest) =
        member.read?.bind fun read =>
          match skipGap (gap ++ rest) with
          | ',' :: rest => (members? depth rest).map fun (members, rest) => (read :: members, rest)
          | '}' :: rest => some ([read], rest)
          | _ => none := by
  obtain ⟨result, hname⟩ := member.stringText_name.exists_read
  obtain ⟨gap, hgap, hvalue⟩ := member.spaced_value.exists_gap
  have hread : member.name? = result.map String.ofList := by
    rw [name?, hname []]
    cases result <;> rfl
  refine ⟨gap, hgap, fun depth rest hdepth hrest => ?_⟩
  simp only [text, List.length_append, List.length_cons] at hdepth
  rw [text, List.append_assoc, List.cons_append, List.append_assoc, List.cons_append,
    List.append_assoc, List.cons_append, members?_member member.gap_before hname member.gap_middle,
    hvalue depth rest (by omega) hrest, read?, hread]
  cases result with
  | none => rfl
  | some name => cases Json.read? (String.ofList member.value) <;> rfl

end MemberText

/-! ## Objects -/

/-- The members of an object as they are written, up to and including its closing brace. -/
inductive Body : List MemberText → List Char → Prop
  | close {gap : List Char} : Gap gap → Body [] (gap ++ ['}'])
  | last (member : MemberText) : Body [member] (member.text ++ ['}'])
  | next (member : MemberText) {members : List MemberText} {rest : List Char} :
      Body members rest → Body (member :: members) (member.text ++ ',' :: rest)

namespace Body

variable {members : List MemberText} {text : List Char}

theorem derives (hbody : Body members text) : Derives .members text := by
  induction hbody with
  | close hgap => exact .closeMembers hgap
  | last member =>
      have hlast := Derives.lastMember member.gap_before member.stringText_name member.gap_middle
        member.spaced_value
      simpa [MemberText.text] using hlast
  | next member _ ih =>
      have hnext := Derives.nextMember member.gap_before member.stringText_name member.gap_middle
        member.spaced_value ih
      simpa [MemberText.text] using hnext

theorem exists_of_derives {symbol : Symbol} (htext : Derives symbol text)
    (hsymbol : symbol = .members) : ∃ members, Body members text := by
  induction htext with
  | closeMembers hgap => exact ⟨[], .close hgap⟩
  | lastMember hbefore hname hmiddle hvalue =>
      have hlast := Body.last ⟨_, _, _, _, hbefore, hname, hmiddle, hvalue⟩
      exact ⟨_, by simpa [MemberText.text] using hlast⟩
  | nextMember hbefore hname hmiddle hvalue _ _ ih =>
      obtain ⟨members, hbody⟩ := ih rfl
      have hnext := Body.next ⟨_, _, _, _, hbefore, hname, hmiddle, hvalue⟩ hbody
      exact ⟨_, by simpa [MemberText.text] using hnext⟩
  | _ => cases hsymbol

theorem members?_eq (hbody : Body members text) (depth : Nat) (rest : List Char)
    (hdepth : 2 * text.length ≤ depth) :
    members? depth (text ++ rest) =
      (members.mapM MemberText.read?).map fun found => (found, rest) := by
  induction hbody generalizing depth with
  | close hgap =>
      obtain ⟨below, rfl, -⟩ := exists_depth (by simp) hdepth
      rw [List.append_assoc, List.singleton_append, members?_close hgap]
      rfl
  | last member =>
      obtain ⟨gap, hgap, hread⟩ := member.exists_gap
      obtain ⟨below, rfl, hbelow⟩ := exists_depth (by simp) hdepth
      rw [List.length_append] at hbelow
      have hclose : skipGap (gap ++ '}' :: rest) = '}' :: rest :=
        skipGap_append_cons hgap (by decide) rest
      rw [List.append_assoc, List.singleton_append,
        hread below _ (by omega) (ends_cons (by decide) rest), hclose]
      cases hmember : member.read? <;> simp [hmember]
  | @next member members tail _ ih =>
      obtain ⟨gap, hgap, hread⟩ := member.exists_gap
      obtain ⟨below, rfl, hbelow⟩ := exists_depth (by simp) hdepth
      rw [List.length_append, List.length_cons] at hbelow
      have hcomma : skipGap (gap ++ ',' :: (tail ++ rest)) = ',' :: (tail ++ rest) :=
        skipGap_append_cons hgap (by decide) _
      rw [List.append_assoc, List.cons_append,
        hread below _ (by omega) (ends_cons (by decide) _), hcomma]
      simp only [ih below (by omega)]
      cases hmember : member.read? with
      | none => simp [hmember]
      | some first => cases hrest : members.mapM MemberText.read? <;> simp [hmember, hrest]

/-- **An object is what its members are**, with anything behind it. -/
theorem read?_object (hbody : Body members text) {before : List Char} (hbefore : Gap before)
    (after : List Char) :
    read? (String.ofList (before ++ '{' :: (text ++ after))) =
      (members.mapM MemberText.read?).map .object := by
  rw [Json.read?, String.toList_ofList, value?_gap hbefore, value?_object,
    hbody.members?_eq _ _ (by simp; omega)]
  cases members.mapM MemberText.read? <;> rfl

end Body

/-- The objects of the grammar are those that are written as some members. -/
theorem derives_members_iff {text : List Char} :
    Derives .members text ↔ ∃ members, Body members text :=
  ⟨fun htext => Body.exists_of_derives htext rfl, fun ⟨_, hbody⟩ => hbody.derives⟩

/-! ## Arrays -/

/-- The items of an array as they are written, up to and including its closing bracket. -/
inductive Items : List (List Char) → List Char → Prop
  | close {gap : List Char} : Gap gap → Items [] (gap ++ [']'])
  | last {item : List Char} : Derives .spaced item → Items [item] (item ++ [']'])
  | next {item rest : List Char} {items : List (List Char)} : Derives .spaced item →
      Items items rest → Items (item :: items) (item ++ ',' :: rest)

namespace Items

variable {items : List (List Char)} {text : List Char}

theorem derives (hitems : Items items text) : Derives .items text := by
  induction hitems with
  | close hgap => exact .closeItems hgap
  | last hitem => exact .lastItem hitem
  | next hitem _ ih => exact .nextItem hitem ih

theorem exists_of_derives {symbol : Symbol} (htext : Derives symbol text)
    (hsymbol : symbol = .items) : ∃ items, Items items text := by
  induction htext with
  | closeItems hgap => exact ⟨[], .close hgap⟩
  | lastItem hitem => exact ⟨_, .last hitem⟩
  | nextItem hitem _ _ ih =>
      obtain ⟨items, hitems⟩ := ih rfl
      exact ⟨_, .next hitem hitems⟩
  | _ => cases hsymbol

theorem items?_eq (hitems : Items items text) (depth : Nat) (rest : List Char)
    (hdepth : 2 * text.length ≤ depth) :
    items? depth (text ++ rest) =
      (items.mapM fun item => read? (String.ofList item)).map fun found => (found, rest) := by
  induction hitems generalizing depth with
  | close hgap =>
      obtain ⟨below, rfl, -⟩ := exists_depth (by simp) hdepth
      rw [List.append_assoc, List.singleton_append, items?_close hgap]
      rfl
  | @last item hitem =>
      obtain ⟨gap, hgap, hread⟩ := hitem.exists_gap
      obtain ⟨below, rfl, hbelow⟩ := exists_depth (by simp) hdepth
      rw [List.length_append, List.length_singleton] at hbelow
      have hclose : skipGap (gap ++ ']' :: rest) = ']' :: rest :=
        skipGap_append_cons hgap (by decide) rest
      rw [List.append_assoc, List.singleton_append, items?_item (hitem.head?_skipGap _),
        hread below _ (by omega) (ends_cons (by decide) rest)]
      cases hvalue : read? (String.ofList item) <;> simp [hvalue, hclose]
  | @next item tail items hitem _ ih =>
      obtain ⟨gap, hgap, hread⟩ := hitem.exists_gap
      obtain ⟨below, rfl, hbelow⟩ := exists_depth (by simp) hdepth
      rw [List.length_append, List.length_cons] at hbelow
      have hcomma : skipGap (gap ++ ',' :: (tail ++ rest)) = ',' :: (tail ++ rest) :=
        skipGap_append_cons hgap (by decide) _
      rw [List.append_assoc, List.cons_append, items?_item (hitem.head?_skipGap _),
        hread below _ (by omega) (ends_cons (by decide) _)]
      cases hvalue : read? (String.ofList item) with
      | none => simp [hvalue]
      | some value =>
          simp only [Option.map_some, Option.bind_some, hcomma, ih below (by omega)]
          cases hrest : items.mapM fun item => read? (String.ofList item) <;> simp [hvalue, hrest]

/-- **An array is what its items are**, with anything behind it. -/
theorem read?_array (hitems : Items items text) {before : List Char} (hbefore : Gap before)
    (after : List Char) :
    read? (String.ofList (before ++ '[' :: (text ++ after))) =
      (items.mapM fun item => read? (String.ofList item)).map .array := by
  rw [Json.read?, String.toList_ofList, value?_gap hbefore, value?_array,
    hitems.items?_eq _ _ (by simp; omega)]
  cases items.mapM fun item => read? (String.ofList item) <;> rfl

end Items

/-- The arrays of the grammar are those that are written as some items. -/
theorem derives_items_iff {text : List Char} :
    Derives .items text ↔ ∃ items, Items items text :=
  ⟨fun htext => Items.exists_of_derives htext rfl, fun ⟨_, hitems⟩ => hitems.derives⟩

end CompileWatch.Json
