import CompileWatch.Dot.Markup
import CompileWatch.Text.Unsigned
import Mathlib.Data.List.Basic

/-!
# Tags of labels

A label is read character by character.  A tag stands between angle brackets, with
attributes behind its name, each with a value between quotes.  Between an ampersand and a
semicolon stands a reference to one character, by its name or by its number.  Every other
character stands for itself, but for the closing bracket, which has no place outside of a
tag.

The reader knows nothing of how labels are written.  `Scans` says what it finds in a part
of a text and how it goes on behind it, so the tokens of a label are put together from those
of its pieces.  A text that is written with escapes is read as its own characters, and so
nothing in it is taken for a tag.
-/

namespace CompileWatch.Dot.Label

/-- What a label is made of. -/
inductive Token
  | char (c : Char)
  | opening (tag : String) (attributes : List (String × String))
  | closing (tag : String)
  deriving DecidableEq, Repr

/-! ## The reader -/

/-- Where the reader is, with what it has read of the reference or tag there. -/
inductive Mode
  /-- Between tags. -/
  | content
  | reference (name : List Char)
  | opening (tag : List Char)
  | closing (tag : List Char)
  /-- In the name of an attribute. -/
  | attribute (tag : List Char) (attributes : List (String × String)) (name : List Char)
  /-- Behind the equals sign of an attribute. -/
  | equals (tag : List Char) (attributes : List (String × String)) (name : List Char)
  | value (tag : List Char) (attributes : List (String × String)) (name value : List Char)
  /-- Behind the name of the tag or behind an attribute. -/
  | gap (tag : List Char) (attributes : List (String × String))
  deriving DecidableEq, Repr

/-- The character that a reference stands for. -/
def character? : List Char → Option Char
  | ['a', 'm', 'p'] => some '&'
  | ['l', 't'] => some '<'
  | ['g', 't'] => some '>'
  | ['q', 'u', 'o', 't'] => some '"'
  | '#' :: digits =>
    ((Text.natural? digits).filter fun code => code.isValidChar).map Char.ofNat
  | _ => none

/-- In an opening tag, a blank leads to a further attribute and a bracket ends the tag. -/
def stepGap? (tag : List Char) (attributes : List (String × String)) (c : Char) :
    Option (Mode × List Token) :=
  if c = ' ' then some (.attribute tag attributes [], [])
  else if c = '>' then some (.content, [.opening (String.ofList tag) attributes])
  else none

/-- Reads one more character, which may complete a token. -/
def step? : Mode → Char → Option (Mode × List Token)
  | .content, c =>
    if c = '<' then some (.opening [], [])
    else if c = '&' then some (.reference [], [])
    else if c = '>' then none
    else some (.content, [.char c])
  | .reference name, c =>
    if c = ';' then (character? name).map fun meant => (.content, [.char meant])
    else some (.reference (name ++ [c]), [])
  | .opening tag, c =>
    if c.isAlpha then some (.opening (tag ++ [c]), [])
    else if tag ≠ [] then stepGap? tag [] c
    else if c = '/' then some (.closing [], [])
    else none
  | .closing tag, c =>
    if c.isAlpha then some (.closing (tag ++ [c]), [])
    else if c = '>' ∧ tag ≠ [] then some (.content, [.closing (String.ofList tag)])
    else none
  | .attribute tag attributes name, c =>
    if c.isAlpha then some (.attribute tag attributes (name ++ [c]), [])
    else if c = '=' ∧ name ≠ [] then some (.equals tag attributes name, [])
    else none
  | .equals tag attributes name, c =>
    if c = '"' then some (.value tag attributes name [], []) else none
  | .value tag attributes name value, c =>
    if c = '"' then
      some (.gap tag (attributes ++ [(String.ofList name, String.ofList value)]), [])
    else some (.value tag attributes name (value ++ [c]), [])
  | .gap tag attributes, c => stepGap? tag attributes c

/-- Reads a text, with the mode at its end. -/
def run? (mode : Mode) : List Char → Option (Mode × List Token)
  | [] => some (mode, [])
  | c :: text => do
    let (next, found) ← step? mode c
    let (last, further) ← run? next text
    return (last, found ++ further)

/-- The tokens of a label. -/
def tokens? (text : List Char) : Option (List Token) :=
  match run? .content text with
  | some (.content, tokens) => some tokens
  | _ => none

/-! ## Reading part of a text -/

/-- From one mode to another the reader finds these tokens in the text. -/
def Scans (mode : Mode) (text : List Char) (last : Mode) (tokens : List Token) : Prop :=
  run? mode text = some (last, tokens)

instance (mode : Mode) (text : List Char) (last : Mode) (tokens : List Token) :
    Decidable (Scans mode text last tokens) :=
  inferInstanceAs (Decidable (_ = _))

section Scanning

variable {mode next last : Mode} {c : Char} {first second text : List Char}
  {found further tokens : List Token}

theorem scans_nil (mode : Mode) : Scans mode [] mode [] := rfl

theorem Scans.cons (hstep : step? mode c = some (next, found))
    (htext : Scans next text last further) : Scans mode (c :: text) last (found ++ further) := by
  unfold Scans at htext ⊢
  rw [run?, hstep, Option.bind_eq_bind, Option.bind_some]
  dsimp only
  rw [htext]
  rfl

theorem Scans.single (hstep : step? mode c = some (next, found)) : Scans mode [c] next found := by
  have hcons := Scans.cons hstep (scans_nil next)
  rwa [List.append_nil] at hcons

theorem Scans.append (hfirst : Scans mode first next found)
    (hsecond : Scans next second last further) :
    Scans mode (first ++ second) last (found ++ further) := by
  induction first generalizing mode found with
  | nil =>
      obtain ⟨rfl, rfl⟩ := Prod.mk.inj (Option.some.inj hfirst)
      exact hsecond
  | cons c first ih =>
      unfold Scans at hfirst
      rw [run?] at hfirst
      obtain ⟨⟨middle, before⟩, hstep, hrest⟩ := Option.bind_eq_some_iff.mp hfirst
      obtain ⟨⟨mode', between⟩, hrun, hpair⟩ := Option.bind_eq_some_iff.mp hrest
      obtain ⟨rfl, rfl⟩ := Prod.mk.inj (Option.some.inj hpair)
      rw [List.cons_append, List.append_assoc]
      exact Scans.cons hstep (ih hrun)

theorem Scans.tokens? (htext : Scans .content text .content tokens) :
    Label.tokens? text = some tokens := by
  unfold Label.tokens?
  rw [show run? .content text = some (.content, tokens) from htext]

/-- A row of texts between tags. -/
theorem scans_flatMap {α : Type} {text : α → List Char} {tokens : α → List Token} {items : List α}
    (hitems : ∀ item ∈ items, Scans .content (text item) .content (tokens item)) :
    Scans .content (items.flatMap text) .content (items.flatMap tokens) := by
  induction items with
  | nil => exact scans_nil .content
  | cons item items ih =>
      rw [List.forall_mem_cons] at hitems
      rw [List.flatMap_cons, List.flatMap_cons]
      exact hitems.1.append (ih hitems.2)

/-- A word grows as long as characters come that belong to it. -/
theorem scans_growing (grown : List Char → Mode) (belongs : Char → Prop)
    (hstep : ∀ sofar c, belongs c → step? (grown sofar) c = some (grown (sofar ++ [c]), []))
    (htext : ∀ c ∈ text, belongs c) (sofar : List Char) :
    Scans (grown sofar) text (grown (sofar ++ text)) [] := by
  induction text generalizing sofar with
  | nil =>
      rw [List.append_nil]
      exact scans_nil _
  | cons c text ih =>
      rw [List.forall_mem_cons] at htext
      have hrest := ih htext.2 (sofar ++ [c])
      rw [List.append_assoc, List.singleton_append] at hrest
      exact Scans.cons (hstep sofar c htext.1) hrest

/-! ## Characters -/

/-- A written character is read back, whether or not it needs a reference. -/
theorem scans_escapeChar (c : Char) : Scans .content (escapeChar c) .content [.char c] := by
  unfold escapeChar
  split_ifs with hand hopening hclosing hquote happostrophe
  iterate 5
    · subst c
      decide
  · have hstep : step? .content c = some (.content, [.char c]) := by
      rw [step?, if_neg hopening, if_neg hand, if_neg hclosing]
    exact Scans.single hstep

/-- **A text that is written with escapes is read as its own characters.** -/
theorem scans_escape (content : String) :
    Scans .content (escape content).toList .content (content.toList.map .char) := by
  rw [escape, String.toList_ofList, List.map_eq_flatMap]
  exact scans_flatMap fun c _ => scans_escapeChar c

theorem natural?_toDigits (n : Nat) : Text.natural? (Nat.toDigits 10 n) = some n := by
  have hdigits : Nat.toDigits 10 n ≠ [] ∧ (Nat.toDigits 10 n).all Char.isDigit := by
    refine ⟨Nat.toDigits_ne_nil, List.all_eq_true.mpr fun c hc => ?_⟩
    exact Nat.isDigit_of_mem_toDigits (by decide) (by decide) hc
  rw [Text.natural?, if_pos hdigits, Nat.ofDigitChars_ten_toDigits]

/-- A reference by number is read as its character. -/
theorem scans_number (c : Char) :
    Scans .content ("&#" ++ toString c.toNat ++ ";").toList .content [.char c] := by
  have hdigits : (toString c.toNat).toList = Nat.toDigits 10 c.toNat := Nat.toList_repr
  have hmeant : character? ('#' :: Nat.toDigits 10 c.toNat) = some c := by
    rw [character?, natural?_toDigits, Option.filter_some_pos, Option.map_some, Char.ofNat_toNat]
    exact decide_eq_true c.valid
  have hbegun : Scans .content ['&', '#'] (.reference ['#']) [] := by decide
  have hgrown : Scans (.reference ['#']) (Nat.toDigits 10 c.toNat)
      (.reference ('#' :: Nat.toDigits 10 c.toNat)) [] := by
    refine scans_growing .reference (fun d => d.isDigit) ?_ ?_ ['#']
    · intro sofar d hd
      have hother : d ≠ ';' := by
        rintro rfl
        exact absurd hd (by decide)
      rw [step?, if_neg hother]
    · intro d hd
      exact Nat.isDigit_of_mem_toDigits (by decide) (by decide) hd
  have hended : Scans (.reference ('#' :: Nat.toDigits 10 c.toNat)) [';'] .content [.char c] := by
    refine Scans.single ?_
    rw [step?, if_pos rfl, hmeant]
    rfl
  have hall := (hbegun.append hgrown).append hended
  rw [String.toList_append, String.toList_append, hdigits]
  exact hall

/-! ## Tags -/

/-- The name of a tag or an attribute: a row of letters. -/
def IsName (name : String) : Prop :=
  name ≠ "" ∧ ∀ c ∈ name.toList, c.isAlpha

instance (name : String) : Decidable (IsName name) :=
  decidable_of_iff (name ≠ "" ∧ name.toList.all Char.isAlpha) (by simp [IsName])

/-- An attribute whose value goes on to the quote that ends it. -/
def IsAttribute (pair : String × String) : Prop :=
  IsName pair.1 ∧ ∀ c ∈ pair.2.toList, c ≠ '"'

instance (pair : String × String) : Decidable (IsAttribute pair) :=
  decidable_of_iff (IsName pair.1 ∧ pair.2.toList.all fun c => c ≠ '"') (by simp [IsAttribute])

theorem IsName.toList_ne_nil {name : String} (hname : IsName name) : name.toList ≠ [] :=
  mt String.toList_eq_nil_iff.mp hname.1

theorem scans_closing {tag : String} (htag : IsName tag) :
    Scans .content ("</" ++ tag ++ ">").toList .content [.closing tag] := by
  have hbegun : Scans .content ['<', '/'] (.closing []) [] := by decide
  have hgrown : Scans (.closing []) tag.toList (.closing tag.toList) [] := by
    refine scans_growing .closing (fun c => c.isAlpha) ?_ htag.2 []
    intro sofar c hc
    rw [step?, if_pos hc]
  have hended : Scans (.closing tag.toList) ['>'] .content [.closing tag] := by
    refine Scans.single ?_
    rw [step?, if_neg (by decide), if_pos ⟨rfl, htag.toList_ne_nil⟩, String.ofList_toList]
  have hall := (hbegun.append hgrown).append hended
  rw [String.toList_append, String.toList_append]
  exact hall

section Opening

variable {tag : List Char} {before attributes : List (String × String)} {pair : String × String}

/-- The text of an attribute, with the blank in front of it. -/
def attributeText (pair : String × String) : List Char :=
  ' ' :: (pair.1.toList ++ '=' :: '"' :: (pair.2.toList ++ ['"']))

theorem toList_renderAttributes (attributes : List (String × String)) :
    (Markup.renderAttributes attributes).toList = attributes.flatMap attributeText := by
  simp [Markup.renderAttributes, String.toList_join, List.flatMap_map]
  rfl

theorem scans_attribute (before : List (String × String)) (hpair : IsAttribute pair) :
    Scans (.gap tag before) (attributeText pair) (.gap tag (before ++ [pair])) [] := by
  obtain ⟨hname, hvalue⟩ := hpair
  have hbegun : Scans (.gap tag before) [' '] (.attribute tag before []) [] :=
    Scans.single (by rw [step?, stepGap?, if_pos rfl])
  have hnamed : Scans (.attribute tag before []) pair.1.toList
      (.attribute tag before pair.1.toList) [] := by
    refine scans_growing (.attribute tag before) (fun c => c.isAlpha) ?_ hname.2 []
    intro sofar c hc
    rw [step?, if_pos hc]
  have hequals : Scans (.attribute tag before pair.1.toList) ['=']
      (.equals tag before pair.1.toList) [] := by
    refine Scans.single ?_
    rw [step?, if_neg (by decide), if_pos ⟨rfl, hname.toList_ne_nil⟩]
  have hquote : Scans (.equals tag before pair.1.toList) ['"']
      (.value tag before pair.1.toList []) [] :=
    Scans.single (by rw [step?, if_pos rfl])
  have hvalued : Scans (.value tag before pair.1.toList []) pair.2.toList
      (.value tag before pair.1.toList pair.2.toList) [] := by
    refine scans_growing (.value tag before pair.1.toList) (fun c => c ≠ '"') ?_ hvalue []
    intro sofar c hc
    rw [step?, if_neg hc]
  have hended : Scans (.value tag before pair.1.toList pair.2.toList) ['"']
      (.gap tag (before ++ [pair])) [] := by
    refine Scans.single ?_
    rw [step?, if_pos rfl, String.ofList_toList, String.ofList_toList]
  have hall := ((((hbegun.append hnamed).append hequals).append hquote).append hvalued).append
    hended
  simpa [attributeText] using hall

/-- The attributes of a tag and the bracket that ends it. -/
theorem scans_attributes (tag : List Char) (before : List (String × String))
    (hattributes : ∀ pair ∈ attributes, IsAttribute pair) :
    Scans (.gap tag before) (attributes.flatMap attributeText ++ ['>']) .content
      [.opening (String.ofList tag) (before ++ attributes)] := by
  induction attributes generalizing before with
  | nil =>
      refine Scans.single ?_
      rw [step?, stepGap?, if_neg (by decide), if_pos rfl, List.append_nil]
  | cons pair attributes ih =>
      rw [List.forall_mem_cons] at hattributes
      have hothers := ih (before ++ [pair]) hattributes.2
      rw [List.append_assoc, List.singleton_append] at hothers
      rw [List.flatMap_cons, List.append_assoc]
      exact (scans_attribute before hattributes.1).append hothers

/-- A character that does not belong to the name of a tag is read as one behind it. -/
theorem scans_opening_cons (htag : tag ≠ []) (hc : c.isAlpha = false)
    (htext : Scans (.gap tag []) (c :: text) last tokens) :
    Scans (.opening tag) (c :: text) last tokens := by
  have hsame : step? (.opening tag) c = step? (.gap tag []) c := by
    rw [step?, if_neg (by simp [hc]), if_pos htag, step?]
  unfold Scans at htext ⊢
  rw [run?] at htext ⊢
  rw [hsame]
  exact htext

end Opening

theorem scans_opening {tag : String} {attributes : List (String × String)} (htag : IsName tag)
    (hattributes : ∀ pair ∈ attributes, IsAttribute pair) :
    Scans .content ("<" ++ tag ++ Markup.renderAttributes attributes ++ ">").toList .content
      [.opening tag attributes] := by
  have hbegun : Scans .content ['<'] (.opening []) [] := by decide
  have hgrown : Scans (.opening []) tag.toList (.opening tag.toList) [] := by
    refine scans_growing .opening (fun c => c.isAlpha) ?_ htag.2 []
    intro sofar c hc
    rw [step?, if_pos hc]
  have hgap := scans_attributes tag.toList [] hattributes
  rw [String.ofList_toList, List.nil_append] at hgap
  have hended : Scans (.opening tag.toList) (attributes.flatMap attributeText ++ ['>'])
      .content [.opening tag attributes] := by
    cases attributes with
    | nil => exact scans_opening_cons htag.toList_ne_nil (by decide) hgap
    | cons pair attributes => exact scans_opening_cons htag.toList_ne_nil (by decide) hgap
  have hall := (hbegun.append hgrown).append hended
  simpa [toList_renderAttributes] using hall

end Scanning

/-! ## Pieces -/

mutual

/-- The tokens of a piece: each character of a text is one of them. -/
def tokens : Markup → List Token
  | .text content => content.toList.map .char
  | .reference c => [.char c]
  | .element tag attributes children =>
    .opening tag attributes :: (allTokens children ++ [.closing tag])

def allTokens : List Markup → List Token
  | [] => []
  | piece :: rest => tokens piece ++ allTokens rest

end

mutual

/-- The names of tags and attributes are read as names, and the values of attributes as values. -/
def Legible : Markup → Prop
  | .text _ => True
  | .reference _ => True
  | .element tag attributes children =>
    IsName tag ∧ (∀ pair ∈ attributes, IsAttribute pair) ∧ AllLegible children

def AllLegible : List Markup → Prop
  | [] => True
  | piece :: rest => Legible piece ∧ AllLegible rest

end

mutual

/-- **A piece is read as its tokens**, whatever its texts are. -/
theorem scans_render {piece : Markup} (hpiece : Legible piece) :
    Scans .content piece.render.toList .content (tokens piece) := by
  cases piece with
  | text content => exact scans_escape content
  | reference c => exact scans_number c
  | element tag attributes children =>
      obtain ⟨htag, hattributes, hchildren⟩ := hpiece
      have hall := ((scans_opening htag hattributes).append (scans_renderAll hchildren)).append
        (scans_closing htag)
      rw [Markup.render, tokens]
      simpa using hall

theorem scans_renderAll {pieces : List Markup} (hpieces : AllLegible pieces) :
    Scans .content (Markup.renderAll pieces).toList .content (allTokens pieces) := by
  cases pieces with
  | nil => exact scans_nil .content
  | cons piece rest =>
      rw [Markup.renderAll, String.toList_append, allTokens]
      exact (scans_render hpieces.1).append (scans_renderAll hpieces.2)

end

/-- Neither a tag nor a reference is found in a text. -/
example : tokens? (Markup.element "u" [] [.text "<b>&lt;"]).render.toList =
    some [.opening "u" [], .char '<', .char 'b', .char '>', .char '&', .char 'l', .char 't',
      .char ';', .closing "u"] := by
  decide

end CompileWatch.Dot.Label
