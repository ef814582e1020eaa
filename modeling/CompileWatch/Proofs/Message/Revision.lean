import CompileWatch.Frame
import CompileWatch.Proofs.Json.Body
import CompileWatch.Proofs.Message.Shape
import Mathlib.Data.List.Perm.Basic

/-!
# Revised messages

A producer may write more fields than are known, write them in another order, and leave out those
that have a value for that case.  Such a revision can be made at any object that stands for
something, however deep it lies in a message.  The message that is read stays the same.
-/

namespace CompileWatch

open Json Json.Value

/-! ## Results of a list of readings -/

/-- Either both are absent, or both are there and have the same image. -/
theorem none_or_some_of_map_eq {α β : Type} {f : α → β} {first second : Option α}
    (hmap : first.map f = second.map f) :
    (first = none ∧ second = none) ∨
      ∃ a b, first = some a ∧ second = some b ∧ f a = f b := by
  cases first with
  | none => exact .inl ⟨rfl, by simpa using hmap.symm⟩
  | some a =>
      obtain ⟨b, rfl, hsame⟩ := Option.map_eq_some_iff.mp hmap.symm
      exact .inr ⟨a, b, rfl, rfl, hsame.symm⟩

section

variable {α β γ : Type} {f : α → Option β} {g : List β → γ} {before after : List α} {a a' : α}

theorem mapM_middle (f : α → Option β) (before after : List α) (a : α) :
    (before ++ a :: after).mapM f =
      (before.mapM f).bind fun first => (f a).bind fun found =>
        (after.mapM f).map fun rest => first ++ found :: rest := by
  cases hbefore : before.mapM f <;> cases hfound : f a <;> cases hafter : after.mapM f <;>
    simp [hbefore, hfound, hafter]

theorem mapM_append_eq (f : α → Option β) (before after : List α) :
    (before ++ after).mapM f =
      (before.mapM f).bind fun first => (after.mapM f).map fun rest => first ++ rest := by
  cases hbefore : before.mapM f <;> cases hafter : after.mapM f <;> simp [hbefore, hafter]

theorem mapM_eq_some_iff {items : List α} {results : List β} :
    items.mapM f = some results ↔
      List.Forall₂ (fun item result => f item = some result) items results := by
  induction items generalizing results with
  | nil => cases results <;> simp
  | cons item items ih =>
      rw [List.forall₂_cons_left_iff, List.mapM_cons]
      constructor
      · intro hresults
        obtain ⟨result, hresult, rest, hrest, heq⟩ := by
          simpa [Option.bind_eq_some_iff] using hresults
        exact ⟨result, rest, hresult, ih.mp hrest, heq.symm⟩
      · rintro ⟨result, rest, hresult, hrest, rfl⟩
        simp [hresult, ih.mpr hrest]

theorem exists_mapM_perm {items items' : List α} {results : List β} (hperm : items.Perm items')
    (hresults : items.mapM f = some results) :
    ∃ results', items'.mapM f = some results' ∧ results.Perm results' := by
  obtain ⟨results', hresults', hsame⟩ :=
    List.perm_comp_forall₂ hperm.symm (mapM_eq_some_iff.mp hresults)
  exact ⟨results', mapM_eq_some_iff.mpr hresults', hsame.symm⟩

/-- One more item changes nothing if its result does not. -/
theorem map_mapM_insert {b : β} (ha : f a = some b)
    (hsame : ∀ first rest, (before ++ after).mapM f = some (first ++ rest) →
      (before ++ a :: after).mapM f = some (first ++ b :: rest) →
      g (first ++ b :: rest) = g (first ++ rest)) :
    ((before ++ a :: after).mapM f).map g = ((before ++ after).mapM f).map g := by
  have hwith := mapM_middle f before after a
  have hwithout := mapM_append_eq f before after
  cases hbefore : before.mapM f with
  | none => rw [hwith, hwithout, hbefore, Option.bind_none, Option.bind_none]
  | some first =>
      cases hafter : after.mapM f with
      | none =>
          rw [hwith, hwithout, hbefore, ha, hafter]
          rfl
      | some rest =>
          rw [hbefore, ha, hafter] at hwith
          rw [hbefore, hafter] at hwithout
          rw [hwith, hwithout]
          exact congrArg some (hsame first rest hwithout hwith)

/-- Another item in its place changes nothing if there is no result of either, or their results
do the same. -/
theorem map_mapM_replace
    (hsame : (f a = none ∧ f a' = none) ∨ ∃ b b', f a = some b ∧ f a' = some b' ∧
      ∀ first rest, (before ++ a :: after).mapM f = some (first ++ b :: rest) →
        g (first ++ b :: rest) = g (first ++ b' :: rest)) :
    ((before ++ a :: after).mapM f).map g = ((before ++ a' :: after).mapM f).map g := by
  have hold := mapM_middle f before after a
  have hnew := mapM_middle f before after a'
  obtain ⟨ha, ha'⟩ | ⟨b, b', ha, ha', hsame⟩ := hsame
  · rw [hold, hnew, ha, ha']
  · cases hbefore : before.mapM f with
    | none => rw [hold, hnew, hbefore, Option.bind_none, Option.bind_none]
    | some first =>
        cases hafter : after.mapM f with
        | none =>
            rw [hold, hnew, hbefore, ha, ha', hafter]
            rfl
        | some rest =>
            rw [hbefore, ha, hafter] at hold
            rw [hbefore, ha', hafter] at hnew
            rw [hold, hnew]
            exact congrArg some (hsame first rest hold)

end

/-! ## Revisions of one object -/

/-- No two members have the same name. -/
def DistinctNames (members : List MemberText) : Prop :=
  (members.map MemberText.name?).Nodup

/-- The field belongs to the object, if that can be read. -/
def Shape.HasField (shape : Shape) (members : List MemberText) (field : WireField) : Prop :=
  ∀ found, members.mapM MemberText.read? = some found → field ∈ shape.fields (kind? found)

/-- The name is not known in the object, if that can be read. -/
def Shape.Ignores (shape : Shape) (members : List MemberText) (name : String) : Prop :=
  ∀ found, members.mapM MemberText.read? = some found → name ∉ shape.names (kind? found)

/-- What may become of the members of an object. -/
inductive Edit (shape : Shape) : List MemberText → List MemberText → Prop
  | insert {before after : List MemberText} {member : MemberText} {name : String}
      {value : Json.Value} : member.read? = some (name, value) →
      shape.Ignores (before ++ after) name →
      Edit shape (before ++ after) (before ++ member :: after)
  | permute {members members' : List MemberText} : DistinctNames members →
      members.Perm members' → Edit shape members members'
  /-- The field holds what it is if it is left out, and then it is left out. -/
  | drop {before after : List MemberText} {member : MemberText} {field : WireField}
      {missing : field.contents.Held} {value : Json.Value} :
      DistinctNames (before ++ member :: after) → member.read? = some (field.name, value) →
      shape.HasField (before ++ member :: after) field → field.missing = some missing →
      field.contents.decode value = some missing →
      Edit shape (before ++ member :: after) (before ++ after)

theorem DistinctNames.namesDistinct {members : List MemberText}
    (hnames : DistinctNames members) {found : List (String × Json.Value)}
    (hfound : members.mapM MemberText.read? = some found) : NamesDistinct found := by
  rw [mapM_eq_some_iff] at hfound
  have hsame : members.map MemberText.name? = (found.map Prod.fst).map some := by
    rw [← List.forall₂_eq_eq_eq, List.forall₂_map_left_iff, List.map_map,
      List.forall₂_map_right_iff]
    exact hfound.imp fun member read hread => MemberText.name?_of_read? hread
  rw [DistinctNames, hsame] at hnames
  exact hnames.of_map some

/-- An edited object stands for the same. -/
theorem Edit.ofJson?_eq {shape : Shape} {members members' : List MemberText}
    (hedit : Edit shape members members') :
    (members.mapM MemberText.read?).map (fun found => shape.ofJson? (.object found)) =
      (members'.mapM MemberText.read?).map fun found => shape.ofJson? (.object found) := by
  cases hedit with
  | @insert before after member name value hread hignores =>
      exact (map_mapM_insert hread fun first rest hwithout _ =>
        (Shape.ofJson?_insert (hignores _ hwithout)).symm).symm
  | permute hnames hperm =>
      cases hfound : members.mapM MemberText.read? with
      | some found =>
          obtain ⟨found', hfound', hsame⟩ := exists_mapM_perm hperm hfound
          rw [hfound']
          exact congrArg some (Shape.ofJson?_perm (hnames.namesDistinct hfound) hsame)
      | none =>
          -- a member that cannot be read cannot be read elsewhere either
          cases hfound' : members'.mapM MemberText.read? with
          | none => rfl
          | some found' =>
              obtain ⟨found, hsome, -⟩ := exists_mapM_perm hperm.symm hfound'
              rw [hfound] at hsome
              cases hsome
  | @drop before after member field missing value hnames hread hfield hmissing hvalue =>
      exact map_mapM_insert hread fun first rest _ hwith =>
        Shape.ofJson?_drop (hfield _ hwith) hmissing hvalue (hnames.namesDistinct hwith)

/-! ## Revisions anywhere -/

/-- A text with one edit in it, at an object at any depth.  The contents tell what the text stands
for. -/
inductive Revised : Contents → List Char → List Char → Prop
  | edit {shape : Shape} {gap text text' rest : List Char} {members members' : List MemberText} :
      Gap gap → Body members text → Body members' text' → Edit shape members members' → Gap rest →
      Revised (.one shape) (gap ++ '{' :: (text ++ rest)) (gap ++ '{' :: (text' ++ rest))
  | member {shape : Shape} {field : WireField} {gap text text' rest : List Char}
      {before after : List MemberText} {member member' : MemberText} : Gap gap →
      Body (before ++ member :: after) text → Body (before ++ member' :: after) text' → Gap rest →
      member.name? = some field.name → member'.name? = some field.name →
      shape.HasField (before ++ member :: after) field →
      Revised field.contents member.value member'.value →
      Revised (.one shape) (gap ++ '{' :: (text ++ rest)) (gap ++ '{' :: (text' ++ rest))
  | optional {shape : Shape} {text text' : List Char} :
      Revised (.one shape) text text' → Revised (.optional shape) text text'
  | item {shape : Shape} {gap text text' rest item item' : List Char}
      {before after : List (List Char)} : Gap gap → Items (before ++ item :: after) text →
      Items (before ++ item' :: after) text' → Gap rest → Revised (.one shape) item item' →
      Revised (.many shape) (gap ++ '[' :: (text ++ rest)) (gap ++ '[' :: (text' ++ rest))

/-- What an item of an array holds matters only as it is read. -/
theorem toList?_replace {α : Type} {decode : Json.Value → Option α}
    {before after : List Json.Value} {value value' : Json.Value}
    (hdecode : decode value = decode value') :
    toList? decode (.array (before ++ value :: after)) =
      toList? decode (.array (before ++ value' :: after)) := by
  rw [toList?, toList?, mapM_middle, mapM_middle, hdecode]

namespace Revised

variable {contents : Contents} {shape : Shape} {text text' : List Char}

/-- What is revised as an object is an object before and after. -/
theorem exists_members (hrevised : Revised (.one shape) text text') :
    ∃ found found' : Option (List (String × Json.Value)),
      read? (String.ofList text) = found.map .object ∧
        read? (String.ofList text') = found'.map .object := by
  cases hrevised with
  | edit hgap htext htext' => exact ⟨_, _, htext.read?_object hgap _, htext'.read?_object hgap _⟩
  | member hgap htext htext' => exact ⟨_, _, htext.read?_object hgap _, htext'.read?_object hgap _⟩

theorem decode_eq (hrevised : Revised contents text text') :
    (read? (String.ofList text)).map contents.decode =
      (read? (String.ofList text')).map contents.decode := by
  -- from the edited object outwards: what lies around it stays, or cannot be read in either text
  induction hrevised with
  | edit hgap htext htext' hedit =>
      rw [htext.read?_object hgap, htext'.read?_object hgap, Option.map_map, Option.map_map]
      exact hedit.ofJson?_eq
  | @member shape field gap text text' rest before after member member' hgap htext htext' _ hname
      hname' hfield _ ih =>
      rw [htext.read?_object hgap, htext'.read?_object hgap, Option.map_map, Option.map_map]
      refine map_mapM_replace ?_
      rw [MemberText.read?, MemberText.read?, hname, hname']
      obtain ⟨hvalue, hvalue'⟩ | ⟨value, value', hvalue, hvalue', hdecode⟩ :=
        none_or_some_of_map_eq ih
      · exact .inl ⟨by rw [hvalue]; rfl, by rw [hvalue']; rfl⟩
      · exact .inr ⟨(field.name, value), (field.name, value'), by rw [hvalue]; rfl,
          by rw [hvalue']; rfl, fun first rest hfound =>
            Shape.ofJson?_replace (hfield _ hfound) hdecode⟩
  | @optional shape text text' hrevised ih =>
      -- an object is never null, so the optional value is there in both texts
      obtain ⟨found, found', hfound, hfound'⟩ := hrevised.exists_members
      have hoption : ∀ found : Option (List (String × Json.Value)),
          (found.map Json.Value.object).map (Contents.decode (.optional shape)) =
            ((found.map Json.Value.object).map (Contents.decode (.one shape))).map
              (Option.map some) := by
        rintro (_ | found) <;> rfl
      rw [hfound, hfound'] at ih ⊢
      rw [hoption, hoption, ih]
  | @item shape gap text text' rest item item' before after hgap htext htext' _ _ ih =>
      rw [htext.read?_array hgap, htext'.read?_array hgap, Option.map_map, Option.map_map]
      refine map_mapM_replace ?_
      obtain hnone | ⟨value, value', hvalue, hvalue', hdecode⟩ := none_or_some_of_map_eq ih
      · exact .inl hnone
      · exact .inr ⟨value, value', hvalue, hvalue', fun first rest _ => toList?_replace hdecode⟩

theorem of_eq {first second : List Char} (hrevised : Revised contents text text')
    (hfirst : first = text) (hsecond : second = text') : Revised contents first second := by
  rw [hfirst, hsecond]
  exact hrevised

theorem derives (hrevised : Revised contents text text') :
    Derives .spaced text ∧ Derives .spaced text' := by
  induction hrevised with
  | edit hgap htext htext' _ hrest | member hgap htext htext' hrest =>
      exact ⟨.spaced hgap (.object (derives_members_iff.mpr ⟨_, htext⟩)) hrest,
        .spaced hgap (.object (derives_members_iff.mpr ⟨_, htext'⟩)) hrest⟩
  | optional _ ih => exact ih
  | item hgap htext htext' hrest =>
      exact ⟨.spaced hgap (.array (derives_items_iff.mpr ⟨_, htext⟩)) hrest,
        .spaced hgap (.array (derives_items_iff.mpr ⟨_, htext'⟩)) hrest⟩

end Revised

/-- Decoding fails in the same way, or gives the same, if the value is read as the same. -/
theorem Frame.decode_congr {α : Type} {decode : Json.Value → Option α} {frame frame' : Frame}
    (hread : (read? frame).map decode = (read? frame').map decode) :
    Frame.decode decode frame = Frame.decode decode frame' := by
  rw [Frame.decode, Frame.decode]
  obtain ⟨hfirst, hsecond⟩ | ⟨value, value', hfirst, hsecond, hsame⟩ := none_or_some_of_map_eq hread
  · rw [hfirst, hsecond]
  · rw [hfirst, hsecond]
    dsimp only
    rw [hsame]

/-- **Unknown fields, the order of fields and fields with a value for their absence do not matter.**
At any object in a message, however deep: a member whose name is not known there may be inserted
anywhere, with any value that can be read; the members may be put into another order; and a field
that holds what it is if it is left out may be left out.  The text is well-formed before and after,
and decoding it gives the same message, or fails in the same way. -/
theorem Shape.decode_revised {shape : Shape} {text text' : String}
    (hrevised : Revised (.one shape) text.toList text'.toList) :
    WellFormed text ∧ WellFormed text' ∧
      Frame.decode shape.ofJson? text = Frame.decode shape.ofJson? text' := by
  refine ⟨hrevised.derives.1, hrevised.derives.2, Frame.decode_congr ?_⟩
  have hdecode := hrevised.decode_eq
  rwa [String.ofList_toList, String.ofList_toList] at hdecode

/-! ## Samples -/

/-- A text that is written between quotes as it is. -/
def PlainText (text : String) : Prop :=
  ∀ c ∈ text.toList, c ≠ '"' ∧ c ≠ '\\'

/-- A member without blanks. -/
def tightMember {name : String} (hname : PlainText name) {value : List Char}
    (hvalue : Derives .spaced value) : MemberText where
  before := []
  name := name.toList
  middle := []
  value
  gap_before := gap_nil
  stringText_name := .of_plain hname
  gap_middle := gap_nil
  spaced_value := hvalue

section

variable {name text : String} {value : List Char} (hname : PlainText name)
  (hvalue : Derives .spaced value)

theorem text_tightMember :
    (tightMember hname hvalue).text = '"' :: (name.toList ++ '"' :: ':' :: value) :=
  rfl

/-- The name of such a member is read as it is. -/
theorem name?_tightMember : (tightMember hname hvalue).name? = some name := by
  rw [MemberText.name?, tightMember, stringTail?_of_plain hname]
  exact congrArg some String.ofList_toList

theorem read?_tightMember {read : Json.Value}
    (hread : Json.read? (String.ofList value) = some read) :
    (tightMember hname hvalue).read? = some (name, read) := by
  rw [MemberText.read?, name?_tightMember, Option.bind_some, tightMember, hread]
  rfl

/-- A plain text as a value. -/
theorem derives_text (htext : PlainText text) :
    Derives .spaced ([] ++ ('"' :: (text.toList ++ ['"']) ++ [])) :=
  .spaced gap_nil (.string (.of_plain htext)) gap_nil

theorem read?_text (htext : PlainText text) :
    Json.read? (String.ofList ([] ++ ('"' :: (text.toList ++ ['"']) ++ []))) =
      some (.string text) := by
  rw [Json.read?, String.toList_ofList, List.nil_append, List.append_nil, value?_string,
    stringTail?_of_plain htext]
  exact congrArg (fun text => some (Json.Value.string text)) String.ofList_toList

end

theorem derives_null : Derives .spaced ([] ++ ("null".toList ++ [])) :=
  .spaced gap_nil .null gap_nil

theorem read?_null : Json.read? (String.ofList ([] ++ ("null".toList ++ []))) = some .null := by
  rw [Json.read?, String.toList_ofList, List.nil_append, value?_null]
  rfl

theorem derives_digit {c : Char} (hc : c.isDigit) : Derives .spaced [c] := by
  have hnumber : NumberText [c] :=
    @NumberText.parts [] [c] [] [] (.inl rfl) (by simp [Digits, hc]) .absent .absent (by simp)
  exact @Derives.spaced [] [c] [] gap_nil (.number hnumber) gap_nil

/-- A member whose name is not known is inserted into a block of a pass, with an object in its
value. -/
theorem revised_samplePass : Revised (.one .pass)
    "\x7b\"blocks\":[\x7b\"number\":7\x7d]\x7d".toList
    "\x7b\"blocks\":[\x7b\"number\":7,\"note\":[\x7b\"type\":0\x7d]\x7d]\x7d".toList := by
  have hnumber : PlainText "number" := by simp [PlainText]
  have hnote : PlainText "note" := by simp [PlainText]
  have htype : PlainText "type" := by simp [PlainText]
  have hblocks : PlainText "blocks" := by simp [PlainText]
  have hdigits : Derives .spaced ['7'] ∧ Derives .spaced ['0'] :=
    ⟨derives_digit (by decide), derives_digit (by decide)⟩
  have hobject :
      Derives .spaced ([] ++ ('{' :: ((tightMember htype hdigits.2).text ++ ['}']) ++ [])) :=
    .spaced gap_nil (.object (Body.last _).derives) gap_nil
  have harray := @Derives.spaced [] _ [] gap_nil (.array (.lastItem hobject)) gap_nil
  let number := tightMember hnumber hdigits.1
  let note := tightMember hnote harray
  have hread : note.read? = some ("note", .array [.object [("type", .natural 0)]]) := by
    refine read?_tightMember _ _ ?_
    rw [Json.read?, String.toList_ofList]
    rfl
  have hignores : Shape.block.Ignores ([number] ++ []) "note" := by
    intro found _
    rw [Shape.names, Shape.fields]
    decide
  have hblock := @Revised.edit .block [] _ _ [] [number] [number, note] gap_nil (.last _)
    (.next _ (.last _)) (@Edit.insert .block [number] [] note _ _ hread hignores) gap_nil
  have hitems := @Revised.item .block [] _ _ [] _ _ [] [] gap_nil (.last hblock.derives.1)
    (.last hblock.derives.2) gap_nil hblock
  have hpass := @Revised.member .pass _ [] _ _ [] [] [] (tightMember hblocks hitems.derives.1)
    (tightMember hblocks hitems.derives.2) gap_nil (.last _) (.last _) gap_nil
    (name?_tightMember _ _) (name?_tightMember _ _) (fun _ _ => List.mem_singleton.mpr rfl) hitems
  refine hpass.of_eq ?_ ?_ <;> simp [text_tightMember, number, note]

/-- The kind of a request comes last. -/
theorem revised_sampleRequest : Revised (.one .panelRequest)
    "\x7b\"type\":\"message\",\"msg\":\"a\"\x7d".toList
    "\x7b\"msg\":\"a\",\"type\":\"message\"\x7d".toList := by
  have htype : PlainText "type" := by simp [PlainText]
  have hmessage : PlainText "message" := by simp [PlainText]
  have hmsg : PlainText "msg" := by simp [PlainText]
  have htext : PlainText "a" := by simp [PlainText]
  let kind := tightMember htype (derives_text hmessage)
  let msg := tightMember hmsg (derives_text htext)
  have hnames : DistinctNames [kind, msg] := by
    rw [DistinctNames, List.map_cons, List.map_singleton, name?_tightMember, name?_tightMember]
    decide
  have hrequest := @Revised.edit .panelRequest [] _ _ [] [kind, msg] [msg, kind] gap_nil
    (.next _ (.last _)) (.next _ (.last _)) (.permute hnames (.swap _ _ _)) gap_nil
  refine hrequest.of_eq ?_ ?_ <;> simp [text_tightMember, kind, msg]

/-- The id of an error is left out. -/
theorem revised_sampleError : Revised (.one .panelEvent)
    "\x7b\"type\":\"error\",\"id\":null,\"message\":\"a\"\x7d".toList
    "\x7b\"type\":\"error\",\"message\":\"a\"\x7d".toList := by
  have htype : PlainText "type" := by simp [PlainText]
  have herror : PlainText "error" := by simp [PlainText]
  have hid : PlainText "id" := by simp [PlainText]
  have hmessage : PlainText "message" := by simp [PlainText]
  have htext : PlainText "a" := by simp [PlainText]
  let kind := tightMember htype (derives_text herror)
  let about := tightMember hid derives_null
  let message := tightMember hmessage (derives_text htext)
  have hkind : kind.read? = some ("type", .string "error") :=
    read?_tightMember _ _ (read?_text herror)
  have habout : about.read? = some ("id", .null) := read?_tightMember _ _ read?_null
  have hnames : DistinctNames [kind, about, message] := by
    rw [DistinctNames, List.map_cons, List.map_cons, List.map_singleton, name?_tightMember,
      name?_tightMember, name?_tightMember]
    decide
  have hfield : Shape.panelEvent.HasField [kind, about, message]
      (Shape.optionField "id" CompilationId.ofJson?) := by
    intro found hfound
    rw [mapM_eq_some_iff, List.forall₂_cons_left_iff] at hfound
    obtain ⟨first, rest, hfirst, -, rfl⟩ := hfound
    obtain rfl := Option.some.inj (hfirst.symm.trans hkind)
    exact List.mem_cons_self
  have hdrop := @Edit.drop .panelEvent [kind] [message] about _ none .null hnames habout hfield
    rfl rfl
  have hevent := @Revised.edit .panelEvent [] _ _ [] [kind, about, message] [kind, message] gap_nil
    (.next _ (.next _ (.last _))) (.next _ (.last _)) hdrop gap_nil
  refine hevent.of_eq ?_ ?_ <;> simp [text_tightMember, kind, about, message]

/-- An unknown field with an object in it is inserted into a block, the kind of a message comes
last, and an id that is absent is left out. -/
theorem sample_decode_revised :
    Frame.decode Graph.ofJson? "\x7b\"mir\":\x7b\"blocks\":[\x7b\"number\":7\x7d]\x7d\x7d" =
      Frame.decode Graph.ofJson?
        "\x7b\"mir\":\x7b\"blocks\":[\x7b\"number\":7,\"note\":[\x7b\"type\":0\x7d]\x7d]\x7d\x7d" ∧
    Frame.decode PanelRequest.ofJson? "\x7b\"type\":\"message\",\"msg\":\"a\"\x7d" =
      Frame.decode PanelRequest.ofJson? "\x7b\"msg\":\"a\",\"type\":\"message\"\x7d" ∧
    Frame.decode PanelEvent.ofJson?
        "\x7b\"type\":\"error\",\"id\":null,\"message\":\"a\"\x7d" =
      Frame.decode PanelEvent.ofJson? "\x7b\"type\":\"error\",\"message\":\"a\"\x7d" := by
  refine ⟨?_, (@Shape.decode_revised .panelRequest _ _ revised_sampleRequest).2.2,
    (@Shape.decode_revised .panelEvent _ _ revised_sampleError).2.2⟩
  have hmir : PlainText "mir" := by simp [PlainText]
  have hgraph := @Revised.member .graph _ [] _ _ [] [] []
    (tightMember hmir revised_samplePass.derives.1) (tightMember hmir revised_samplePass.derives.2)
    gap_nil (.last _) (.last _) gap_nil (name?_tightMember _ _) (name?_tightMember _ _)
    (fun _ _ => List.mem_cons_self) revised_samplePass
  refine (@Shape.decode_revised .graph _ _ (hgraph.of_eq ?_ ?_)).2.2 <;> simp [text_tightMember]

end CompileWatch
