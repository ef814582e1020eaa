import CompileWatch.Dot.Document
import Mathlib.Data.List.Basic

/-!
# Tokens of graph documents

A text in the DOT format is a row of tokens with blanks between them.  A bare word goes on
as long as letters, digits and underscores follow; it begins with no digit, unless it is a
number.  A quoted text ends at the first quote in front of which no backslash takes the
next character literally.  A label ends at the angle bracket that closes the one it began
with.

The reader of tokens knows nothing of how a document is written.  `Lexes` says that a
text is read as some tokens whatever stands behind it, so that the tokens of a document
are put together from those of its parts.
-/

namespace CompileWatch.Dot

inductive Token
  | value (value : Value)
  /-- One of the brackets, braces and separators. -/
  | mark (c : Char)
  | arrow
  deriving DecidableEq, Repr

/-! ## The reader -/

def isBlank (c : Char) : Bool :=
  c = ' ' || c = '\t' || c = '\n' || c = '\r'

def isMark (c : Char) : Bool :=
  c ∈ ['{', '}', '[', ']', '=', ',', ';']

/-- Whether a character can stand in a bare word. -/
def isWordChar (c : Char) : Bool :=
  c.isAlphanum || c = '_' || 128 ≤ c.toNat

/-- A bare word: a number, or a row of word characters that does not begin with a digit. -/
def IsWord (text : List Char) : Prop :=
  text ≠ [] ∧ (∀ c ∈ text, isWordChar c) ∧
    ((∀ c ∈ text.head?, c.isDigit = false) ∨ ∀ c ∈ text, c.isDigit)

instance (text : List Char) : Decidable (IsWord text) :=
  decidable_of_iff
    (text ≠ [] ∧ text.all isWordChar ∧
      ((text.head?.all fun c => !c.isDigit) ∨ text.all Char.isDigit))
    (by simp [IsWord, Option.all_eq_true])

/-- Puts a character in front of what has been read. -/
def onto (c : Char) (read : Option (List Char × List Char)) : Option (List Char × List Char) :=
  read.map fun (content, rest) => (c :: content, rest)

/-- The content of a quoted text whose opening quote has been read, and the text behind its closing
quote. -/
def quotedTail? : List Char → Option (List Char × List Char)
  | [] => none
  | '"' :: rest => some ([], rest)
  | '\\' :: c :: rest => onto c (quotedTail? rest)
  | c :: rest => onto c (quotedTail? rest)

/-- The content of a label in which so many brackets besides the first are open, and the text behind
the bracket that closes the first. -/
def labelTail? (depth : Nat) : List Char → Option (List Char × List Char)
  | [] => none
  | c :: rest =>
    if c = '<' then onto c (labelTail? (depth + 1) rest)
    else if c = '>' then
      match depth with
      | 0 => some ([], rest)
      | depth + 1 => onto c (labelTail? depth rest)
    else onto c (labelTail? depth rest)

/-- The token that begins with `c`, and the text behind it. -/
def token? (c : Char) (text : List Char) : Option (Token × List Char) :=
  if c = '"' then
    (quotedTail? text).map fun (content, rest) => (.value (.quoted (String.ofList content)), rest)
  else if c = '<' then
    (labelTail? 0 text).map fun (content, rest) => (.value (.label (String.ofList content)), rest)
  else if isWordChar c then
    if IsWord (c :: text.takeWhile isWordChar) then
      some (.value (.word (String.ofList (c :: text.takeWhile isWordChar))),
        text.dropWhile isWordChar)
    else none
  else if isMark c then some (.mark c, text)
  else if c = '-' ∧ text.head? = some '>' then some (.arrow, text.tail)
  else none

/-! ## What a reader leaves -/

variable {c : Char} {text content rest : List Char}

theorem exists_of_onto {read : Option (List Char × List Char)}
    (honto : onto c read = some (content, rest)) :
    ∃ before, read = some (before, rest) ∧ content = c :: before := by
  obtain ⟨⟨before, behind⟩, hread, heq⟩ := Option.map_eq_some_iff.mp honto
  obtain ⟨rfl, rfl⟩ := Prod.mk.inj heq
  exact ⟨before, hread, rfl⟩

theorem length_le_of_quotedTail? (hread : quotedTail? text = some (content, rest)) :
    rest.length ≤ text.length := by
  fun_induction quotedTail? text generalizing content with
  | case1 => cases hread
  | case2 behind =>
      cases hread
      exact Nat.le_succ _
  | case3 c behind ih =>
      obtain ⟨before, hbefore, -⟩ := exists_of_onto hread
      have := ih hbefore
      simp only [List.length_cons]
      omega
  | case4 c behind _ _ ih =>
      obtain ⟨before, hbefore, -⟩ := exists_of_onto hread
      exact Nat.le_succ_of_le (ih hbefore)

theorem length_le_of_labelTail? {depth : Nat}
    (hread : labelTail? depth text = some (content, rest)) : rest.length ≤ text.length := by
  induction text generalizing depth content with
  | nil => cases hread
  | cons c text ih =>
      unfold labelTail? at hread
      split at hread
      · obtain ⟨before, hbefore, -⟩ := exists_of_onto hread
        exact Nat.le_succ_of_le (ih hbefore)
      · split at hread
        · cases depth with
          | zero =>
              cases hread
              exact Nat.le_succ _
          | succ depth =>
              obtain ⟨before, hbefore, -⟩ := exists_of_onto hread
              exact Nat.le_succ_of_le (ih hbefore)
        · obtain ⟨before, hbefore, -⟩ := exists_of_onto hread
          exact Nat.le_succ_of_le (ih hbefore)

theorem length_le_of_token? {token : Token} (hread : token? c text = some (token, rest)) :
    rest.length ≤ text.length := by
  unfold token? at hread
  split_ifs at hread
  · obtain ⟨⟨before, behind⟩, hquoted, heq⟩ := Option.map_eq_some_iff.mp hread
    obtain ⟨-, rfl⟩ := Prod.mk.inj heq
    exact length_le_of_quotedTail? hquoted
  · obtain ⟨⟨before, behind⟩, hlabel, heq⟩ := Option.map_eq_some_iff.mp hread
    obtain ⟨-, rfl⟩ := Prod.mk.inj heq
    exact length_le_of_labelTail? hlabel
  · obtain ⟨-, rfl⟩ := Prod.mk.inj (Option.some.inj hread)
    exact (List.dropWhile_suffix isWordChar).length_le
  · obtain ⟨-, rfl⟩ := Prod.mk.inj (Option.some.inj hread)
    exact Nat.le_refl _
  · obtain ⟨-, rfl⟩ := Prod.mk.inj (Option.some.inj hread)
    rw [List.length_tail]
    exact Nat.sub_le _ _

/-- The tokens of a text. -/
def tokens? : List Char → Option (List Token)
  | [] => some []
  | c :: text =>
    if isBlank c then tokens? text
    else
      match h : token? c text with
      | none => none
      | some (token, rest) =>
        have := length_le_of_token? h
        (tokens? rest).map (token :: ·)
termination_by text => text.length

theorem tokens?_blank (hc : isBlank c) (text : List Char) :
    tokens? (c :: text) = tokens? text := by
  rw [tokens?, if_pos hc]

theorem tokens?_token {token : Token} (hc : isBlank c = false)
    (hread : token? c text = some (token, rest)) :
    tokens? (c :: text) = (tokens? rest).map (token :: ·) := by
  rw [tokens?, if_neg (by simp [hc])]
  split
  · rename_i hnone
    rw [hread] at hnone
    cases hnone
  · rename_i found behind hfound
    obtain ⟨rfl, rfl⟩ := Prod.mk.inj (Option.some.inj (hfound.symm.trans hread))
    rfl

/-! ## Texts and their tokens -/

/-- The text is read as these tokens, whatever follows. -/
def Lexes (text : List Char) (tokens : List Token) : Prop :=
  ∀ rest, tokens? (text ++ rest) = (tokens? rest).map (tokens ++ ·)

theorem lexes_nil : Lexes [] [] := by
  intro rest
  simp

variable {first second : List Char} {firstTokens secondTokens tokens : List Token}

theorem Lexes.append (hfirst : Lexes first firstTokens) (hsecond : Lexes second secondTokens) :
    Lexes (first ++ second) (firstTokens ++ secondTokens) := by
  intro rest
  rw [List.append_assoc, hfirst, hsecond, Option.map_map]
  simp [Function.comp_def]

/-- A row of texts is read as the row of their tokens. -/
theorem lexes_flatMap {α : Type} {text : α → List Char} {tokens : α → List Token} {items : List α}
    (hitems : ∀ item ∈ items, Lexes (text item) (tokens item)) :
    Lexes (items.flatMap text) (items.flatMap tokens) := by
  induction items with
  | nil => exact lexes_nil
  | cons item items ih =>
      rw [List.forall_mem_cons] at hitems
      rw [List.flatMap_cons, List.flatMap_cons]
      exact hitems.1.append (ih hitems.2)

theorem Lexes.tokens? (htext : Lexes text tokens) : Dot.tokens? text = some tokens := by
  have hread := htext []
  rw [List.append_nil] at hread
  rw [hread, Dot.tokens?, Option.map_some, List.append_nil]

theorem Lexes.blank (hc : isBlank c) (htext : Lexes text tokens) : Lexes (c :: text) tokens := by
  intro rest
  rw [List.cons_append, tokens?_blank hc, htext]

/-- A token that is read whatever stands behind it. -/
theorem Lexes.token {token : Token} (written : List Char) (hc : isBlank c = false)
    (hread : ∀ rest, token? c (written ++ rest) = some (token, rest)) (htext : Lexes text tokens) :
    Lexes (c :: (written ++ text)) (token :: tokens) := by
  intro rest
  rw [List.cons_append, List.append_assoc, tokens?_token hc (hread _), htext, Option.map_map]
  rfl

theorem Lexes.mark (hc : isMark c) (htext : Lexes text tokens) :
    Lexes (c :: text) (.mark c :: tokens) := by
  have hother : isBlank c = false ∧ c ≠ '"' ∧ c ≠ '<' ∧ isWordChar c = false := by
    have hmarks : (['{', '}', '[', ']', '=', ',', ';'].all fun mark =>
        isBlank mark = false ∧ mark ≠ '"' ∧ mark ≠ '<' ∧ isWordChar mark = false) = true := by
      decide
    exact of_decide_eq_true (List.all_eq_true.mp hmarks c (of_decide_eq_true hc))
  obtain ⟨hblank, hquote, hbracket, hword⟩ := hother
  refine Lexes.token [] hblank (fun rest => ?_) htext
  simp [token?, hquote, hbracket, hword, hc]

theorem Lexes.arrow (htext : Lexes text tokens) :
    Lexes ('-' :: '>' :: text) (.arrow :: tokens) :=
  Lexes.token ['>'] (by decide) (fun _ => rfl) htext

/-- A word is read up to a character that does not go on with it. -/
theorem Lexes.word (hword : IsWord content) (hc : isWordChar c = false)
    (htext : Lexes (c :: text) tokens) :
    Lexes (content ++ c :: text) (.value (.word (String.ofList content)) :: tokens) := by
  intro rest
  obtain ⟨hnonempty, hchars, hbeginning⟩ := hword
  obtain ⟨first, others, rfl⟩ := List.exists_cons_of_ne_nil hnonempty
  have hfirst : isWordChar first := hchars first List.mem_cons_self
  have hothers : ∀ c ∈ others, isWordChar c := fun c hc => hchars c (List.mem_cons_of_mem _ hc)
  have hother : isBlank first = false ∧ first ≠ '"' ∧ first ≠ '<' := by
    refine ⟨?_, ?_, ?_⟩
    · refine Bool.eq_false_iff.mpr fun hblank => ?_
      simp only [isBlank, Bool.or_eq_true, decide_eq_true_eq] at hblank
      rcases hblank with ((rfl | rfl) | rfl) | rfl <;> exact absurd hfirst (by decide)
    · rintro rfl
      exact absurd hfirst (by decide)
    · rintro rfl
      exact absurd hfirst (by decide)
  obtain ⟨hblank, hquote, hbracket⟩ := hother
  have htake : (others ++ c :: (text ++ rest)).takeWhile isWordChar = others := by
    rw [List.takeWhile_append_of_pos hothers, List.takeWhile_cons_of_neg (by simp [hc]),
      List.append_nil]
  have hdrop : (others ++ c :: (text ++ rest)).dropWhile isWordChar = c :: (text ++ rest) := by
    rw [List.dropWhile_append_of_pos hothers, List.dropWhile_cons_of_neg (by simp [hc])]
  have hread : token? first (others ++ c :: (text ++ rest)) =
      some (.value (.word (String.ofList (first :: others))), c :: (text ++ rest)) := by
    unfold token?
    rw [if_neg hquote, if_neg hbracket, if_pos hfirst, htake, hdrop]
    exact if_pos ⟨hnonempty, hchars, hbeginning⟩
  rw [List.cons_append, List.cons_append, List.append_assoc, List.cons_append,
    tokens?_token hblank hread, ← List.cons_append, htext, Option.map_map]
  rfl

/-! ## Quoted texts -/

/-- A character between quotes is read back. -/
theorem quotedTail?_quoteChar (c : Char) (rest : List Char) :
    quotedTail? (quoteChar c ++ rest) = onto c (quotedTail? rest) := by
  unfold quoteChar
  split_ifs with hbackslash hquote
  · subst hbackslash
    rfl
  · subst hquote
    rfl
  · rw [List.singleton_append, quotedTail?]
    · exact hquote
    · rintro d behind hd
      exact absurd hd hbackslash

theorem quotedTail?_flatMap (text rest : List Char) :
    quotedTail? (text.flatMap quoteChar ++ '"' :: rest) = some (text, rest) := by
  induction text with
  | nil => rfl
  | cons c text ih =>
      rw [List.flatMap_cons, List.append_assoc, quotedTail?_quoteChar, ih]
      rfl

theorem Lexes.quoted (content : String) (htext : Lexes text tokens) :
    Lexes ((Value.quoted content).render.toList ++ text) (.value (.quoted content) :: tokens) := by
  rw [Value.render, String.toList_ofList, List.cons_append]
  refine Lexes.token _ (by decide) (fun rest => ?_) htext
  rw [token?, if_pos rfl, List.append_assoc, List.singleton_append, quotedTail?_flatMap]
  simp

/-! ## Labels -/

theorem labelTail?_opening (depth : Nat) (text : List Char) :
    labelTail? depth ('<' :: text) = onto '<' (labelTail? (depth + 1) text) :=
  rfl

theorem labelTail?_inner (depth : Nat) (text : List Char) :
    labelTail? (depth + 1) ('>' :: text) = onto '>' (labelTail? depth text) :=
  rfl

theorem labelTail?_closing (text : List Char) : labelTail? 0 ('>' :: text) = some ([], text) :=
  rfl

theorem labelTail?_plain (hopening : c ≠ '<') (hclosing : c ≠ '>') (depth : Nat)
    (text : List Char) : labelTail? depth (c :: text) = onto c (labelTail? depth text) := by
  simp [labelTail?, hopening, hclosing]

/-- A text in which every bracket that is opened is closed, and no other is. -/
def Balanced (text : List Char) : Prop :=
  ∀ depth rest, labelTail? depth (text ++ rest) =
    (labelTail? depth rest).map fun (content, behind) => (text ++ content, behind)

theorem balanced_nil : Balanced [] := by
  intro depth rest
  simp

theorem Balanced.append (hfirst : Balanced first) (hsecond : Balanced second) :
    Balanced (first ++ second) := by
  intro depth rest
  rw [List.append_assoc, hfirst, hsecond, Option.map_map]
  simp [Function.comp_def]

theorem balanced_cons (hopening : c ≠ '<') (hclosing : c ≠ '>') (htext : Balanced text) :
    Balanced (c :: text) := by
  intro depth rest
  rw [List.cons_append, labelTail?_plain hopening hclosing, htext, onto, Option.map_map]
  rfl

/-- A text without brackets. -/
theorem balanced_of_forall (htext : ∀ c ∈ text, c ≠ '<' ∧ c ≠ '>') : Balanced text := by
  induction text with
  | nil => exact balanced_nil
  | cons c text ih =>
      rw [List.forall_mem_cons] at htext
      exact balanced_cons htext.1.1 htext.1.2 (ih htext.2)

/-- A balanced text between brackets. -/
theorem Balanced.tag (htext : Balanced text) : Balanced ('<' :: (text ++ ['>'])) := by
  intro depth rest
  rw [List.cons_append, List.append_assoc, List.singleton_append, labelTail?_opening, htext,
    labelTail?_inner, onto, onto, Option.map_map, Option.map_map]
  simp [Function.comp_def]

theorem Lexes.label {markup : String} (hmarkup : Balanced markup.toList)
    (htext : Lexes text tokens) :
    Lexes ((Value.label markup).render.toList ++ text) (.value (.label markup) :: tokens) := by
  have hrender : (Value.label markup).render.toList = '<' :: (markup.toList ++ ['>']) := by
    simp [Value.render]
  rw [hrender, List.cons_append]
  refine Lexes.token _ (by decide) (fun rest => ?_) htext
  rw [token?, if_neg (by decide), if_pos rfl, List.append_assoc, hmarkup, List.singleton_append,
    labelTail?_closing]
  simp

end CompileWatch.Dot
