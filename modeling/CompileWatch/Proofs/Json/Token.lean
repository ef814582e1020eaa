import CompileWatch.Json.Reader
import Mathlib

/-!
# Tokens of JSON texts

The blanks, strings and numbers that a JSON text is made of, as sets of texts, and what
the reader does when it meets one of them in front of any further text.  A string ends
with its closing quote.  A number ends where the text goes on with something that no
number goes on with; `Ends` says so of the text behind it.

The reader may refuse a token: a code unit may be half of a pair, an exponent may lack
its digits, an integer may be too large.  What it makes of the token, be it a value or
nothing, does not depend on the text behind it, and if it makes a value of it, that
text is what is left.
-/

namespace CompileWatch.Json

/-! ## Blanks -/

/-- A text of blanks alone. -/
def Gap (text : List Char) : Prop :=
  ∀ c ∈ text, isGap c

theorem skipGap_append {gap : List Char} (hgap : Gap gap) (text : List Char) :
    skipGap (gap ++ text) = skipGap text :=
  List.dropWhile_append_of_pos hgap

theorem skipGap_cons {c : Char} (hc : isGap c = false) (text : List Char) :
    skipGap (c :: text) = c :: text := by
  simp [skipGap, hc]

theorem skipGap_append_cons {gap : List Char} (hgap : Gap gap) {c : Char} (hc : isGap c = false)
    (text : List Char) : skipGap (gap ++ c :: text) = c :: text := by
  rw [skipGap_append hgap, skipGap_cons hc]

theorem gap_nil : Gap [] :=
  fun _ hc => absurd hc List.not_mem_nil

/-! ## Strings -/

/-- The content of a string between its quotes. -/
inductive StringText : List Char → Prop
  | nil : StringText []
  | plain {c : Char} {text : List Char} : c ≠ '"' → c ≠ '\\' → StringText text →
      StringText (c :: text)
  /-- A backslash before any ASCII character that does not introduce a code unit. -/
  | escape {c : Char} {text : List Char} : c ≠ 'u' → c.toNat < 128 → StringText text →
      StringText ('\\' :: c :: text)
  | codeUnit {a b c d : Char} {unit : Nat} {text : List Char} : codeUnit? a b c d = some unit →
      StringText text → StringText ('\\' :: 'u' :: a :: b :: c :: d :: text)

theorem stringTail?_quote (text : List Char) : stringTail? ('"' :: text) = some ([], text) := by
  rw [stringTail?.eq_def]
  rfl

theorem stringTail?_plain {c : Char} (hquote : c ≠ '"') (hbackslash : c ≠ '\\')
    (text : List Char) : stringTail? (c :: text) = prepend c (stringTail? text) := by
  rw [stringTail?.eq_def]
  simp [hquote, hbackslash]

theorem stringTail?_escape {c meant : Char} (hmeant : escaped? c = some meant)
    (text : List Char) :
    stringTail? ('\\' :: c :: text) = prepend meant (stringTail? text) := by
  have hc : c ≠ 'u' := by
    rintro rfl
    simp [escaped?] at hmeant
  rw [stringTail?.eq_def]
  simp [hmeant, hc]

theorem exists_escaped {c : Char} (hc : c ≠ 'u') (hascii : c.toNat < 128) :
    ∃ meant, escaped? c = some meant := by
  unfold escaped?
  repeat' split
  all_goals simp_all

/-- What a code unit stands for decides how the reader goes on behind it. -/
theorem stringTail?_codeUnit {a b c d : Char} {unit : Nat}
    (hunit : codeUnit? a b c d = some unit) (text : List Char) :
    stringTail? ('\\' :: 'u' :: a :: b :: c :: d :: text) =
      if isHighSurrogate unit then
        match text with
        | '\\' :: 'u' :: a :: b :: c :: d :: text =>
          match codeUnit? a b c d with
          | none => none
          | some low =>
            if isLowSurrogate low then prepend (ofSurrogates unit low) (stringTail? text) else none
        | _ => none
      else if isLowSurrogate unit then none
      else prepend (Char.ofNat unit) (stringTail? text) := by
  rw [stringTail?.eq_def]
  simp only [hunit]
  rfl

/-- A character in front of a string is one in front of what the reader makes of it. -/
theorem prepend_read {content : List Char} {result : Option (List Char)}
    (hread : ∀ rest, stringTail? (content ++ '"' :: rest) = result.map fun read => (read, rest))
    (c : Char) (rest : List Char) :
    prepend c (stringTail? (content ++ '"' :: rest)) =
      (result.map (c :: ·)).map fun read => (read, rest) := by
  rw [hread rest]
  cases result <;> rfl

/-- What the reader makes of a string does not depend on the text behind its closing quote. -/
theorem StringText.exists_read {content : List Char} (hcontent : StringText content) :
    ∃ result : Option (List Char), ∀ rest,
      stringTail? (content ++ '"' :: rest) = result.map fun read => (read, rest) := by
  -- a pair of code units is read at once, so the induction is on the length
  induction hlength : content.length using Nat.strongRecOn generalizing content with
  | ind length ih =>
      subst hlength
      cases hcontent with
      | nil => exact ⟨some [], fun rest => stringTail?_quote rest⟩
      | @plain c text hquote hbackslash htext =>
          obtain ⟨result, hread⟩ := ih _ (by simp) htext rfl
          refine ⟨result.map (c :: ·), fun rest => ?_⟩
          rw [List.cons_append, stringTail?_plain hquote hbackslash, prepend_read hread]
      | @escape c text hc hascii htext =>
          obtain ⟨result, hread⟩ := ih _ (by simp only [List.length_cons]; omega) htext rfl
          obtain ⟨meant, hmeant⟩ := exists_escaped hc hascii
          refine ⟨result.map (meant :: ·), fun rest => ?_⟩
          rw [List.cons_append, List.cons_append, stringTail?_escape hmeant,
            prepend_read hread]
      | @codeUnit a b c d unit text hunit htext =>
          simp only [List.cons_append, stringTail?_codeUnit hunit]
          split
          · -- the first half of a pair needs the second half behind it
            cases htext with
            | nil => exact ⟨none, fun rest => rfl⟩
            | @plain c text _ hbackslash _ =>
                refine ⟨none, fun rest => ?_⟩
                simp [hbackslash]
            | @escape c text hc _ _ =>
                refine ⟨none, fun rest => ?_⟩
                simp [hc]
            | @codeUnit a b c d low text hlow htext =>
                simp only [List.cons_append, hlow]
                split
                · obtain ⟨result, hread⟩ := ih _ (by simp only [List.length_cons]; omega) htext rfl
                  exact ⟨_, prepend_read hread _⟩
                · exact ⟨none, fun rest => rfl⟩
          · split
            · exact ⟨none, fun rest => rfl⟩
            · obtain ⟨result, hread⟩ := ih _ (by simp only [List.length_cons]; omega) htext rfl
              exact ⟨_, prepend_read hread _⟩

/-! ## Numbers -/

/-- A row of decimal digits, which may be empty. -/
def Digits (text : List Char) : Prop :=
  ∀ c ∈ text, c.isDigit

/-- What may follow the whole part of a number: nothing, or a point and digits. -/
inductive FractionText : List Char → Prop
  | absent : FractionText []
  | point {digits : List Char} : Digits digits → FractionText ('.' :: digits)

/-- What may follow the fraction of a number: nothing, or a mark, a sign and digits. -/
inductive ExponentText : List Char → Prop
  | absent : ExponentText []
  | mark {c : Char} {sign digits : List Char} : c = 'e' ∨ c = 'E' →
      sign = [] ∨ sign = ['+'] ∨ sign = ['-'] → Digits digits →
      ExponentText (c :: (sign ++ digits))

/-- A number.  Each row of digits may be empty, and the first may have leading zeros. -/
inductive NumberText : List Char → Prop
  | parts {sign whole fraction exponent : List Char} : sign = [] ∨ sign = ['-'] →
      Digits whole → FractionText fraction → ExponentText exponent → sign ++ whole ≠ [] →
      NumberText (sign ++ (whole ++ (fraction ++ exponent)))

/-- Whether a character can stand in a number. -/
def inNumber (c : Char) : Bool :=
  c.isDigit || c = '.' || c = 'e' || c = 'E' || c = '+' || c = '-'

/-- A text that does not carry on a number in front of it. -/
def Ends (text : List Char) : Prop :=
  ∀ c ∈ text.head?, inNumber c = false

theorem ends_nil : Ends [] := by
  simp [Ends]

theorem ends_cons {c : Char} (hc : inNumber c = false) (text : List Char) : Ends (c :: text) := by
  simpa [Ends] using hc

theorem inNumber_of_isGap {c : Char} (hc : isGap c) : inNumber c = false := by
  simp only [isGap, Bool.or_eq_true, decide_eq_true_eq] at hc
  rcases hc with ((rfl | rfl) | rfl) | rfl <;> decide

theorem ends_append {gap text : List Char} (hgap : Gap gap) (htext : Ends text) :
    Ends (gap ++ text) := by
  cases gap with
  | nil => exact htext
  | cons c gap => exact ends_cons (inNumber_of_isGap (hgap c List.mem_cons_self)) _

/-- A number begins with a minus sign or a digit. -/
theorem NumberText.exists_cons {text : List Char} (htext : NumberText text) :
    ∃ c rest, text = c :: rest ∧ (c = '-' ∨ c.isDigit) := by
  cases htext with
  | @parts sign whole fraction exponent hsign hwhole hfraction hexponent hstart =>
      rcases hsign with rfl | rfl
      · cases whole with
        | nil => exact absurd rfl hstart
        | cons c whole => exact ⟨c, _, rfl, .inr (hwhole c List.mem_cons_self)⟩
      · exact ⟨'-', _, rfl, .inl rfl⟩

theorem isGap_of_number {c : Char} (hc : c = '-' ∨ c.isDigit) : isGap c = false := by
  have hnumber : inNumber c = true := by
    rcases hc with rfl | hc
    · decide
    · simp [inNumber, hc]
  exact Bool.eq_false_iff.mpr fun h => absurd (inNumber_of_isGap h) (by simp [hnumber])

theorem digitRun_append {digits rest : List Char} (hdigits : Digits digits)
    (hrest : ∀ c ∈ rest.head?, c.isDigit = false) : digitRun (digits ++ rest) = (digits, rest) := by
  rw [digitRun, List.span_eq_takeWhile_dropWhile, List.takeWhile_append_of_pos hdigits,
    List.dropWhile_append_of_pos hdigits]
  cases rest with
  | nil => simp
  | cons c rest => simp [hrest c (by simp)]

theorem fraction?_absent {rest : List Char} (hrest : ∀ c ∈ rest.head?, c ≠ '.') :
    fraction? rest = (none, rest) := by
  cases rest with
  | nil => rfl
  | cons c rest =>
      have hpoint : c ≠ '.' := hrest c (by simp)
      simp [fraction?, hpoint]

theorem exponent?_absent {rest : List Char} (hrest : Ends rest) :
    exponent? rest = (none, rest) := by
  cases rest with
  | nil => rfl
  | cons c rest =>
      have hc : inNumber c = false := hrest c (by simp)
      have hmark : ¬(c = 'e' ∨ c = 'E') := by
        rintro (rfl | rfl) <;> exact absurd hc (by decide)
      simp [exponent?, hmark]

/-- The fraction of a number ends where neither a digit nor a second point follows. -/
theorem FractionText.exists_read {fraction : List Char} (hfraction : FractionText fraction) :
    ∃ result, ∀ rest, (∀ c ∈ rest.head?, c.isDigit = false ∧ c ≠ '.') →
      fraction? (fraction ++ rest) = (result, rest) := by
  cases hfraction with
  | absent => exact ⟨none, fun rest hrest => fraction?_absent fun c hc => (hrest c hc).2⟩
  | @point digits hdigits =>
      refine ⟨some digits, fun rest hrest => ?_⟩
      simp [fraction?, digitRun_append hdigits fun c hc => (hrest c hc).1]

theorem FractionText.head?_append {fraction rest : List Char} (hfraction : FractionText fraction)
    (hrest : ∀ c ∈ rest.head?, c.isDigit = false ∧ c ≠ '.') :
    ∀ c ∈ (fraction ++ rest).head?, c.isDigit = false := by
  cases hfraction with
  | absent => exact fun c hc => (hrest c hc).1
  | point => simp

theorem ExponentText.exists_read {exponent : List Char} (hexponent : ExponentText exponent) :
    ∃ result, ∀ rest, Ends rest → exponent? (exponent ++ rest) = (result, rest) := by
  cases hexponent with
  | absent => exact ⟨none, fun rest hrest => exponent?_absent hrest⟩
  | @mark c sign digits hc hsign hdigits =>
      have hdigit : ∀ rest, Ends rest → ∀ d ∈ rest.head?, d.isDigit = false := by
        intro rest hrest d hd
        have := hrest d hd
        simp_all [inNumber]
      have hplain : ∀ rest, Ends rest → exponentSign (digits ++ rest) = (false, digits ++ rest) := by
        intro rest hrest
        have hhead : ∀ d ∈ (digits ++ rest).head?, d ≠ '+' ∧ d ≠ '-' := by
          cases digits with
          | nil =>
              rintro d hd
              have := hrest d hd
              constructor <;> (rintro rfl; exact absurd this (by decide))
          | cons d digits =>
              have hd : d.isDigit := hdigits d List.mem_cons_self
              intro e he
              obtain rfl : d = e := by simpa using he
              constructor <;> (rintro rfl; exact absurd hd (by decide))
        rcases htext : digits ++ rest with - | ⟨d, text⟩
        · rfl
        · have := hhead d (by simp [htext])
          simp [exponentSign, this.1, this.2]
      rcases hsign with rfl | rfl | rfl
      · refine ⟨some (false, digits), fun rest hrest => ?_⟩
        simp [exponent?, hc, hplain rest hrest, digitRun_append hdigits (hdigit rest hrest)]
      · refine ⟨some (false, digits), fun rest hrest => ?_⟩
        simp [exponent?, hc, exponentSign, digitRun_append hdigits (hdigit rest hrest)]
      · refine ⟨some (true, digits), fun rest hrest => ?_⟩
        simp [exponent?, hc, exponentSign, digitRun_append hdigits (hdigit rest hrest)]

theorem ExponentText.head?_append {exponent rest : List Char} (hexponent : ExponentText exponent)
    (hrest : Ends rest) : ∀ c ∈ (exponent ++ rest).head?, c.isDigit = false ∧ c ≠ '.' := by
  cases hexponent with
  | absent =>
      intro c hc
      have := hrest c hc
      simp_all [inNumber]
  | mark hc => rcases hc with rfl | rfl <;> simp

theorem minusSign_append {sign whole : List Char} (hsign : sign = [] ∨ sign = ['-'])
    (hwhole : Digits whole) (hstart : sign ++ whole ≠ []) (text : List Char) :
    minusSign (sign ++ (whole ++ text)) = (decide (sign ≠ []), whole ++ text) := by
  rcases hsign with rfl | rfl
  · cases whole with
    | nil => exact absurd rfl hstart
    | cons c whole =>
        have hc : c ≠ '-' := by
          rintro rfl
          exact absurd (hwhole _ List.mem_cons_self) (by decide)
        simp [minusSign, hc]
  · rfl

/-- What the reader makes of a number does not depend on a text behind it that does not carry it
on. -/
theorem NumberText.exists_read {text : List Char} (htext : NumberText text) :
    ∃ result : Option Value, ∀ rest, Ends rest →
      number? (text ++ rest) = result.map fun value => (value, rest) := by
  cases htext with
  | @parts sign whole fraction exponent hsign hwhole hfraction hexponent hstart =>
      obtain ⟨fractionRead, hfractionRead⟩ := hfraction.exists_read
      obtain ⟨exponentRead, hexponentRead⟩ := hexponent.exists_read
      have hread : ∀ rest, Ends rest → number? (sign ++ (whole ++ (fraction ++ exponent)) ++ rest) =
          (if fractionRead.isNone ∧ exponentRead.isNone then integer? (decide (sign ≠ [])) whole
            else real? (decide (sign ≠ [])) whole (fractionRead.getD []) exponentRead).map
            fun value => (value, rest) := by
        intro rest hrest
        have hafter := hexponent.head?_append hrest
        simp only [number?, List.append_assoc, minusSign_append hsign hwhole hstart,
          digitRun_append hwhole (hfraction.head?_append hafter), hfractionRead _ hafter,
          hexponentRead _ hrest]
      exact ⟨_, hread⟩

end CompileWatch.Json
