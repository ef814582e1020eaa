import CompileWatch.Dot.Markup
import CompileWatch.Proofs.Dot.Token
import CompileWatch.Proofs.Text.Replace

/-!
# Escapes are undone

Free text stands in a document in two places.  In a label its special characters are
written by references, and between quotes by a backslash.  Both are written character by
character, and what is written for one character is read back as that character whatever
stands behind it.  So both are undone by readers that go through the text from the left,
also where the text looks as if it had been escaped before.

* `unescape` replaces references in a label.
* `quotedTail?` reads up to the closing quote; a backslash takes the next character
  literally.
-/

namespace CompileWatch.Dot

variable {c : Char} {text front back rest content before after : List Char}

/-! ## References in labels -/

/-- The references that are written, each with the character that it stands for. -/
def references : List (String × Char) :=
  [("&amp;", '&'), ("&lt;", '<'), ("&gt;", '>'), ("&quot;", '"'), ("&#39;", '\'')]

/-- The reference that a text begins with, if it begins with one. -/
def reference? (text : List Char) : Option (String × Char) :=
  references.find? fun reference => reference.1.toList.isPrefixOf text

/-- Replaces references from the left, where `skip` characters still belong to the last one. -/
def unescapeFrom : Nat → List Char → List Char
  | _, [] => []
  | skip + 1, _ :: text => unescapeFrom skip text
  | 0, c :: text =>
    match reference? (c :: text) with
    | some (written, meant) => meant :: unescapeFrom (written.length - 1) text
    | none => c :: unescapeFrom 0 text

/-- The text with its references replaced by the characters that they stand for. -/
def unescape (text : String) : String :=
  String.ofList (unescapeFrom 0 text.toList)

/-- A character is written by a reference, or it is not special and stands for itself. -/
theorem escapeChar_eq_reference_or_plain (c : Char) :
    (∃ reference ∈ references, escapeChar c = reference.1.toList ∧ reference.2 = c) ∨
      (escapeChar c = [c] ∧ c ∉ references.map Prod.snd) := by
  by_cases hspecial : c ∈ references.map Prod.snd
  · obtain ⟨reference, hreference, rfl⟩ := List.mem_map.mp hspecial
    have hwritten : ∀ reference ∈ references, escapeChar reference.2 = reference.1.toList := by
      decide
    exact .inl ⟨reference, hreference, hwritten reference hreference, rfl⟩
  · refine .inr ⟨?_, hspecial⟩
    simp only [references, List.map_cons, List.map_nil, List.mem_cons, List.not_mem_nil, or_false,
      not_or] at hspecial
    obtain ⟨hand, hopening, hclosing, hquote, happostrophe⟩ := hspecial
    rw [escapeChar, if_neg hand, if_neg hopening, if_neg hclosing, if_neg hquote,
      if_neg happostrophe]

theorem reference?_of_ne (hc : c ≠ '&') (text : List Char) : reference? (c :: text) = none := by
  have hfirst : ∀ reference ∈ references, reference.1.toList.head? = some '&' := by decide
  refine List.find?_eq_none.mpr fun reference hreference => ?_
  obtain ⟨others, hothers⟩ := List.head?_eq_some_iff.mp (hfirst reference hreference)
  rw [hothers, List.isPrefixOf_iff_prefix, List.cons_prefix_cons]
  exact fun hfound => hc hfound.1.symm

theorem unescapeFrom_reference {reference : String × Char} (hreference : reference ∈ references)
    (rest : List Char) :
    unescapeFrom 0 (reference.1.toList ++ rest) = reference.2 :: unescapeFrom 0 rest := by
  simp only [references, List.mem_cons, List.not_mem_nil, or_false] at hreference
  rcases hreference with rfl | rfl | rfl | rfl | rfl <;> rfl

/-- What is written for a character is read back, whatever stands behind it. -/
theorem unescapeFrom_escapeChar (c : Char) (rest : List Char) :
    unescapeFrom 0 (escapeChar c ++ rest) = c :: unescapeFrom 0 rest := by
  rcases escapeChar_eq_reference_or_plain c with ⟨reference, hreference, hwritten, rfl⟩ |
    ⟨hwritten, hplain⟩
  · rw [hwritten, unescapeFrom_reference hreference]
  · have hand : c ≠ '&' := by
      rintro rfl
      exact hplain (by decide)
    rw [hwritten, List.singleton_append, unescapeFrom, reference?_of_ne hand]

theorem unescapeFrom_flatMap (text : List Char) :
    unescapeFrom 0 (text.flatMap escapeChar) = text := by
  induction text with
  | nil => rfl
  | cons c text ih => rw [List.flatMap_cons, unescapeFrom_escapeChar, ih]

theorem unescape_escape (text : String) : unescape (escape text) = text := by
  rw [unescape, escape, String.toList_ofList, unescapeFrom_flatMap, String.ofList_toList]

theorem escape_append (first second : String) :
    escape (first ++ second) = escape first ++ escape second := by
  simp [escape, ← String.ofList_append]

/-- Neither a bracket nor a quote is left in an escaped text. -/
theorem notMem_escape (hc : c ∈ ['<', '>', '"', '\'']) (text : String) :
    c ∉ (escape text).toList := by
  have hspecial : c ∈ references.map Prod.snd ∧
      ∀ reference ∈ references, c ∉ reference.1.toList := by
    simp only [List.mem_cons, List.not_mem_nil, or_false] at hc
    rcases hc with rfl | rfl | rfl | rfl <;> decide
  obtain ⟨hspecial, hclean⟩ := hspecial
  intro hwritten
  rw [escape, String.toList_ofList, List.mem_flatMap] at hwritten
  obtain ⟨plain, -, hwritten⟩ := hwritten
  rcases escapeChar_eq_reference_or_plain plain with ⟨reference, hreference, hsame, -⟩ |
    ⟨hsame, hplain⟩
  · exact hclean reference hreference (hsame ▸ hwritten)
  · obtain rfl : c = plain := List.mem_singleton.mp (hsame ▸ hwritten)
    exact hplain hspecial

/-- An ampersand in what is written for a character is the first character of a reference. -/
theorem reference_of_escapeChar (hwritten : escapeChar c = before ++ '&' :: after) :
    before = [] ∧ ∃ reference ∈ references, reference.1.toList = '&' :: after := by
  rcases escapeChar_eq_reference_or_plain c with ⟨reference, hreference, hsame, -⟩ |
    ⟨hsame, hplain⟩
  · have honce : ∀ reference ∈ references, '&' ∉ reference.1.toList.tail := by decide
    rw [hsame] at hwritten
    cases before with
    | nil => exact ⟨rfl, reference, hreference, hwritten⟩
    | cons first others =>
        have hmem : '&' ∈ reference.1.toList.tail := by
          rw [hwritten]
          simp
        exact absurd hmem (honce reference hreference)
  · have hmem : '&' ∈ [c] := by
      rw [← hsame, hwritten]
      simp
    obtain rfl := List.mem_singleton.mp hmem
    exact absurd (by decide) hplain

/-- Every ampersand of an escaped text begins a reference. -/
theorem reference_of_flatMap (hwritten : text.flatMap escapeChar = before ++ '&' :: after) :
    ∃ reference ∈ references, reference.1.toList <+: '&' :: after := by
  induction text generalizing before with
  | nil => simp at hwritten
  | cons c text ih =>
      rw [List.flatMap_cons] at hwritten
      rcases List.append_eq_append_iff.mp hwritten with ⟨between, -, hrest⟩ | ⟨tail, hc, hrest⟩
      · exact ih hrest
      · cases tail with
        | nil => exact @ih [] hrest.symm
        | cons first others =>
            obtain ⟨rfl, hafter⟩ := List.cons.inj hrest
            obtain ⟨-, reference, hreference, hsame⟩ := reference_of_escapeChar hc
            refine ⟨reference, hreference, ?_⟩
            rw [hsame, hafter]
            exact List.prefix_append ('&' :: others) _

/-- **Escaping is lossless and clean.**  An escaped text has no brackets and no quotes, and each of
its ampersands begins one of the five references.  Replacing these from the left gives the text
back.  Texts are escaped piece by piece, and different texts are different when they are escaped. -/
theorem escape_lossless (text : String) :
    (∀ c ∈ ['<', '>', '"', '\''], c ∉ (escape text).toList) ∧
    (∀ before after, (escape text).toList = before ++ '&' :: after →
      ∃ reference ∈ references, reference.1.toList <+: '&' :: after) ∧
    unescape (escape text) = text ∧
    (∀ other, escape (text ++ other) = escape text ++ escape other) ∧
    (∀ other, escape other = escape text → other = text) := by
  refine ⟨fun c hc => notMem_escape hc text, ?_, unescape_escape text, escape_append text, ?_⟩
  · intro before after hwritten
    rw [escape, String.toList_ofList] at hwritten
    exact reference_of_flatMap hwritten
  · intro other hsame
    calc other = unescape (escape other) := (unescape_escape other).symm
      _ = unescape (escape text) := by rw [hsame]
      _ = text := unescape_escape text

/-- A text that looks escaped is escaped once more. -/
example : escape "&lt;" = "&amp;lt;" ∧ unescape "&amp;lt;" = "&lt;" := by decide

/-! ## Quoted values -/

/-- A backslash is doubled before a quote gets one of its own. -/
theorem flatMap_substitute_substitute (c : Char) :
    (Text.substitute '\\' "\\\\" c).flatMap (Text.substitute '"' "\\\"") = quoteChar c := by
  unfold quoteChar
  split_ifs with hbackslash hquote
  · subst hbackslash
    decide
  · subst hquote
    decide
  · rw [Text.substitute, if_neg hbackslash, List.flatMap_singleton, Text.substitute, if_neg hquote]

/-- Between the quotes stands the text with its backslashes replaced, and then its quotes. -/
theorem toList_replace_replace (text : String) :
    ((text.replace '\\' "\\\\").replace '"' "\\\"").toList = text.toList.flatMap quoteChar := by
  rw [Text.toList_replace_char, Text.toList_replace_char, List.flatMap_assoc]
  simp only [flatMap_substitute_substitute]

/-- What stands behind the closing quote is left. -/
theorem quotedTail?_append (hread : quotedTail? front = some (content, rest)) (back : List Char) :
    quotedTail? (front ++ back) = some (content, rest ++ back) := by
  fun_induction quotedTail? front generalizing content with
  | case1 => cases hread
  | case2 rest =>
      cases hread
      rfl
  | case3 c behind ih =>
      obtain ⟨before, hbefore, rfl⟩ := exists_of_onto hread
      rw [List.cons_append, List.cons_append, quotedTail?, ih hbefore]
      rfl
  | case4 c behind hquote hescape ih =>
      obtain ⟨before, hbefore, rfl⟩ := exists_of_onto hread
      have hnext : quotedTail? (c :: (behind ++ back)) = onto c (quotedTail? (behind ++ back)) := by
        rw [quotedTail?]
        · exact hquote
        · rintro first others hbackslash -
          -- nothing would stand behind the backslash, and nothing closes the text there
          cases behind with
          | nil => cases hbefore
          | cons d behind => exact hescape d behind hbackslash rfl
      rw [List.cons_append, hnext, ih hbefore]
      rfl

/-- **A quoted value is closed by its last character and read as its own text.**  It begins with a
quote, and between this one and the last stands the text with its backslashes replaced, and then
its quotes.  With a backslash taking the next character literally, no quote before the last closes
the value, and the characters that are read are those of the text.  So different texts have
different forms. -/
theorem quoted_read_back (text : String) :
    (Value.quoted text).render =
      "\"" ++ (text.replace '\\' "\\\\").replace '"' "\\\"" ++ "\"" ∧
    (∃ tail, (Value.quoted text).render.toList = '"' :: tail ∧
      quotedTail? tail = some (text.toList, []) ∧
      ∀ front back, tail = front ++ back → back ≠ [] → quotedTail? front = none) ∧
    (∀ other, (Value.quoted other).render = (Value.quoted text).render → other = text) := by
  have hrender : ∀ text : String, (Value.quoted text).render.toList =
      '"' :: (text.toList.flatMap quoteChar ++ ['"']) := by
    intro text
    rw [Value.render, String.toList_ofList]
  have hread : ∀ text : String,
      quotedTail? (text.toList.flatMap quoteChar ++ ['"']) = some (text.toList, []) :=
    fun text => quotedTail?_flatMap text.toList []
  refine ⟨?_, ⟨_, hrender text, hread text, ?_⟩, ?_⟩
  · rw [← String.toList_inj, hrender, String.toList_append, String.toList_append,
      toList_replace_replace]
    rfl
  · intro front back htail hback
    refine Option.eq_none_iff_forall_ne_some.mpr ?_
    rintro ⟨content, rest⟩ hclosed
    -- a quote that closes the front would leave all of the back
    have hall := quotedTail?_append hclosed back
    rw [← htail, hread, Option.some_inj, Prod.mk.injEq] at hall
    exact hback (List.append_eq_nil_iff.mp hall.2.symm).2
  · intro other hsame
    have htails := hrender text
    rw [← hsame, hrender, List.cons_inj_right] at htails
    have hcontents := (hread other).symm.trans ((congrArg quotedTail? htails).trans (hread text))
    rw [Option.some_inj, Prod.mk.injEq] at hcontents
    exact String.toList_inj.mp hcontents.1

/-- The order of the two replacements matters: the other way round, the backslash that a quote gets
is doubled, and the quote behind it closes the value. -/
example : quotedTail? ((['"'].flatMap (Text.substitute '"' "\\\"")).flatMap
      (Text.substitute '\\' "\\\\") ++ ['"']) = some (['\\'], ['"']) := by
  decide

end CompileWatch.Dot
