import CompileWatch.Proofs.Message.Sentinel
import CompileWatch.Proofs.Text.Position

/-!
# Where the sentinel is found

The graph of a compilation takes the place of the sentinel in an envelope if the digits of
the sentinel stand at one position there, and the envelope is refused otherwise.  The search
for them does not skip positions, since the digits cannot overlap with themselves
(`splice_at_only_position`).

In the envelope of a graph frame the sentinel has one position of its own.  Any other
belongs to the id, which may be longer than the sentinel, or to the name or the url of a
script: digits stand between two marks that are no digits, and the other numbers of a
script are too short.  A name can hold the sentinel without being written with its digits.
The escape of the character U+0019 ends in a `9`, with which the sentinel begins
(`sentinelsIn_writeString`).
-/

namespace CompileWatch

open Json.Value Text

/-- At how many positions of a text the digits of the sentinel stand. -/
def sentinelsIn (text : List Char) : Nat :=
  occurrences sentinelDigits text

/-! ## Splicing -/

section Splicing

variable {envelope : String} {before after : List Char}

theorem count_sentinelDigits (text : List Char) :
    count sentinelDigits text = sentinelsIn text :=
  count_eq_occurrences (by decide) (by decide) text

theorem spliceGraph_of_splitsAlone (graph : RawJson)
    (hsplit : SplitsAlone sentinelDigits envelope.toList before after)
    (hone : sentinelsIn envelope.toList = 1) :
    spliceGraph envelope graph = .ok (String.ofList (before ++ (graph.text.toList ++ after))) := by
  have hcount : count sentinelDigits envelope.toList = 1 := by rw [count_sentinelDigits, hone]
  unfold spliceGraph
  dsimp only
  rw [if_pos hcount]
  rw [hsplit.eq_append] at hcount ⊢
  rw [replaceFirst_of_count_eq_one (by decide) (by decide) _ hcount]

theorem spliceGraph_eq_error (graph : RawJson) (hother : sentinelsIn envelope.toList ≠ 1) :
    spliceGraph envelope graph =
      .error (.sentinelCollision (sentinelsIn envelope.toList)) := by
  unfold spliceGraph
  dsimp only
  rw [count_sentinelDigits, if_neg hother]

/-- **A graph text takes the place of the only sentinel.**  An envelope is accepted if and only if
the digits of the sentinel stand at one position of it, overlapping ones counted.  The frame then is
the part in front of them, the graph text and the part behind them.  If there is none or more than
one, the error tells how many there are.  What the graph text says does not matter, even if it has
the digits of the sentinel in it. -/
theorem splice_at_only_position (envelope : String) (graph : RawJson) :
    ((∃ text, spliceGraph envelope graph = .ok text) ↔
      (positions sentinelDigits envelope.toList).length = 1) ∧
    (∀ text, spliceGraph envelope graph = .ok text →
      ∃ before after, SplitsAlone sentinelDigits envelope.toList before after ∧
        text.toList = before ++ (graph.text.toList ++ after)) ∧
    (∀ error, spliceGraph envelope graph = .error error →
      error = .sentinelCollision (positions sentinelDigits envelope.toList).length) ∧
    ∀ other error, spliceGraph envelope graph = .error error →
      spliceGraph envelope other = .error error := by
  by_cases hone : sentinelsIn envelope.toList = 1
  · obtain ⟨before, after, hsplit⟩ := exists_splitsAlone (by decide) hone
    have hspliced := spliceGraph_of_splitsAlone graph hsplit hone
    rw [hspliced]
    refine ⟨⟨fun _ => hone, fun _ => ⟨_, rfl⟩⟩, ?_, nofun, nofun⟩
    intro text htext
    refine ⟨before, after, hsplit, ?_⟩
    rw [← Except.ok.inj htext, String.toList_ofList]
  · rw [spliceGraph_eq_error graph hone]
    refine ⟨⟨nofun, fun hlength => absurd hlength hone⟩, nofun, ?_, ?_⟩
    · intro error herror
      exact (Except.error.inj herror).symm
    · intro other error herror
      rw [spliceGraph_eq_error other hone, Except.error.inj herror]

end Splicing

/-! ## Numbers and marks -/

section Values

variable {mark : Char}

theorem sentinelsIn_append_cons (hmark : mark ∉ sentinelDigits) (before after : List Char) :
    sentinelsIn (before ++ mark :: after) = sentinelsIn before + sentinelsIn after := by
  rw [← count_sentinelDigits, ← count_sentinelDigits, ← count_sentinelDigits]
  exact count_append_cons (by decide) hmark before after

theorem sentinelsIn_cons (hmark : mark ∉ sentinelDigits) (text : List Char) :
    sentinelsIn (mark :: text) = sentinelsIn text := by
  have hcons := sentinelsIn_append_cons hmark [] text
  rwa [List.nil_append, show sentinelsIn [] = 0 from rfl, Nat.zero_add] at hcons

theorem sentinelsIn_between {opening closing : Char} (hopening : opening ∉ sentinelDigits)
    (hclosing : closing ∉ sentinelDigits) (text : List Char) :
    sentinelsIn (opening :: (text ++ [closing])) = sentinelsIn text := by
  rw [sentinelsIn_cons hopening, sentinelsIn_append_cons hclosing]
  rfl

/-- In an array the sentinel is found in the items. -/
theorem sentinelsIn_array (items : List Json.Value) :
    sentinelsIn (array items).write = (items.map fun item => sentinelsIn item.write).sum := by
  rw [write, sentinelsIn_between (by decide) (by decide)]
  induction items with
  | nil => rfl
  | cons item items ih =>
      rw [List.map_cons, List.sum_cons, ← ih]
      cases items with
      | nil => rfl
      | cons next items => rw [writeItems, sentinelsIn_append_cons (by decide)]

/-- In an object the sentinel is found in the names and the values of the members. -/
theorem sentinelsIn_object (members : List (String × Json.Value)) :
    sentinelsIn (object members).write =
      (members.map fun member =>
        sentinelsIn (Json.writeString member.1.toList) + sentinelsIn member.2.write).sum := by
  rw [write, sentinelsIn_between (by decide) (by decide)]
  induction members with
  | nil => rfl
  | cons member members ih =>
      obtain ⟨name, value⟩ := member
      rw [List.map_cons, List.sum_cons, ← ih]
      cases members with
      | nil => exact sentinelsIn_append_cons (by decide) _ _
      | cons next members =>
          rw [writeMembers, sentinelsIn_append_cons (by decide),
            sentinelsIn_append_cons (by decide), Nat.add_assoc]

theorem sentinelsIn_eq_zero {text : List Char} (hshort : text.length < sentinelDigits.length) :
    sentinelsIn text = 0 := by
  rw [← count_sentinelDigits, count_eq_zero_iff (by decide)]
  intro hfound
  exact absurd hfound.length_le (not_le.mpr hshort)

/-- A word of 32 bits has fewer digits than the sentinel. -/
theorem sentinelsIn_word (word : UInt32) : sentinelsIn (natural word.toNat).write = 0 := by
  apply sentinelsIn_eq_zero
  have hlt : word.toNat < 10 ^ 10 := word.toNat_lt.trans (by decide)
  have hlength : (Nat.repr word.toNat).length ≤ 10 := Nat.repr_length _ _ (by decide) hlt
  rw [← String.length_toList] at hlength
  rw [natural, write, Json.write_integer]
  exact Nat.lt_of_le_of_lt hlength (by decide)

end Values

/-! ## Strings -/

section Strings

variable {digits text : List Char} {c : Char}

/-- How a character is written: as it stands, or by an escape, which ends in a `9` for one character
only and has none before its end. -/
theorem escapeChar_cases (c : Char) :
    Json.escapeChar c = [c] ∧ c ≠ '\x19' ∨
      c.isDigit = false ∧ ∃ front last, Json.escapeChar c = '\\' :: (front ++ [last]) ∧
        '9' ∉ front ∧ (last = '9' ↔ c = '\x19') := by
  have hcontrols : ∀ n < 0x20, n ≠ '\t'.toNat →
      '9' ∉ ['u', '0', '0', Json.hexDigit (n / 16)] ∧
        (Json.hexDigit (n % 16) = '9' ↔ n = '\x19'.toNat) ∧ (Char.ofNat n).isDigit = false := by
    decide
  unfold Json.escapeChar
  split_ifs with hquote hbackslash hn hr ht hb hf hcontrol
  -- seven characters have a short escape
  iterate 7
    · subst c
      exact .inr ⟨by decide, [], _, rfl, by decide, by decide⟩
  · have hother : c.toNat ≠ '\t'.toNat := fun htab => ht (Char.toNat_inj.mp htab)
    obtain ⟨hfront, hlast, hdigit⟩ := hcontrols c.toNat hcontrol hother
    rw [Char.toNat_inj] at hlast
    rw [Char.ofNat_toNat] at hdigit
    exact .inr ⟨hdigit, _, _, rfl, hfront, hlast⟩
  · refine .inl ⟨rfl, ?_⟩
    rintro rfl
    exact absurd (by decide) hcontrol

/-- Digits at the beginning of a written text are those at the beginning of the text itself. -/
theorem isPrefix_escaped (hdigits : ∀ c ∈ digits, c.isDigit) :
    digits <+: text.flatMap Json.escapeChar ++ ['"'] ↔ digits <+: text := by
  induction digits generalizing text with
  | nil => simp
  | cons digit digits ih =>
      rw [List.forall_mem_cons] at hdigits
      obtain ⟨hdigit, hothers⟩ := hdigits
      cases text with
      | nil =>
          have hquote : digit ≠ '"' := by
            rintro rfl
            exact absurd hdigit (by decide)
          simp [List.cons_prefix_cons, hquote]
      | cons c text =>
          rw [List.flatMap_cons, List.append_assoc, List.cons_prefix_cons]
          rcases escapeChar_cases c with ⟨hplain, -⟩ | ⟨hc, front, last, hescaped, -⟩
          · rw [hplain, List.singleton_append, List.cons_prefix_cons, ih hothers]
          · -- the digit is neither the backslash nor the character that is written with it
            have hbackslash : digit ≠ '\\' := by
              rintro rfl
              exact absurd hdigit (by decide)
            have hother : digit ≠ c := by
              rintro rfl
              exact absurd hdigit (by simp [hc])
            rw [hescaped, List.cons_append, List.cons_prefix_cons]
            exact iff_of_false (fun h => hbackslash h.1) fun h => hother h.1

/-- The digits of the sentinel behind the first, which is a `9`. -/
def sentinelTail : List Char :=
  sentinelDigits.tail

theorem sentinelDigits_eq_cons : sentinelDigits = '9' :: sentinelTail := by
  decide +kernel

/-- Only a `9` can begin a sentinel. -/
theorem sentinelsIn_cons_eq (c : Char) (text : List Char) :
    sentinelsIn (c :: text) =
      (if c = '9' ∧ sentinelTail <+: text then 1 else 0) + sentinelsIn text := by
  unfold sentinelsIn
  rw [sentinelDigits_eq_cons, occurrences_cons_cons]

theorem sentinelsIn_append_of_notMem {front : List Char} (hfront : '9' ∉ front)
    (back : List Char) : sentinelsIn (front ++ back) = sentinelsIn back := by
  induction front with
  | nil => rfl
  | cons c front ih =>
      rw [List.mem_cons, not_or] at hfront
      rw [List.cons_append, sentinelsIn_cons_eq, if_neg fun h => hfront.1 h.1.symm, Nat.zero_add]
      exact ih hfront.2

/-- **The sentinel in a written string** comes from its digits, or from all of them but the first
behind the character U+0019, which is written as `\u0019`. -/
theorem sentinelsIn_writeString (text : List Char) :
    sentinelsIn (Json.writeString text) =
      sentinelsIn text + occurrences ('\x19' :: sentinelTail) text := by
  have hdigits : ∀ c ∈ sentinelTail, c.isDigit := by
    intro c hc
    exact Nat.isDigit_of_mem_toDigits (by decide) (by decide) (List.mem_of_mem_tail hc)
  rw [Json.writeString, sentinelsIn_cons (by decide)]
  induction text with
  | nil => decide +kernel
  | cons c text ih =>
      -- a sentinel that begins with the last character in front of the rest goes on in the text
      have hstart : ∀ last, sentinelsIn (last :: (text.flatMap Json.escapeChar ++ ['"'])) =
          (if last = '9' ∧ sentinelTail <+: text then 1 else 0) +
            (sentinelsIn text + occurrences ('\x19' :: sentinelTail) text) := by
        intro last
        rw [sentinelsIn_cons_eq, ih]
        simp only [isPrefix_escaped hdigits]
      rw [List.flatMap_cons, List.append_assoc, sentinelsIn_cons_eq, occurrences_cons_cons]
      rcases escapeChar_cases c with
        ⟨hplain, hother⟩ | ⟨hc, front, last, hescaped, hfront, hlast⟩
      · rw [hplain, List.singleton_append, hstart, if_neg fun h : c = '\x19' ∧ _ => hother h.1]
        omega
      · have hnine : c ≠ '9' := by
          rintro rfl
          exact absurd hc (by decide)
        have hbackslash : '9' ∉ '\\' :: front := by
          rw [List.mem_cons, not_or]
          exact ⟨by decide, hfront⟩
        rw [hescaped, ← List.cons_append, List.append_assoc,
          sentinelsIn_append_of_notMem hbackslash, List.singleton_append, hstart,
          if_neg fun h : c = '9' ∧ _ => hnine h.1]
        simp only [hlast]
        omega

end Strings

/-! ## Graph frames -/

namespace GraphFrame

/-- At how many positions the sentinel stands in the id and the scripts of a frame, as they are
written. -/
def strays (id : CompilationId) (scripts : List Script) : Nat :=
  sentinelsIn id.toJson.write + sentinelsIn (ofList Script.toJson scripts).write

/-- At how many positions it stands in the name and the url of a script. -/
def straysIn (script : Script) : Nat :=
  script.displayName.elim 0 (fun name => sentinelsIn (Json.writeString name.toList)) +
    sentinelsIn (Json.writeString script.url.toList)

/-- The other numbers of a script. -/
def numbersOf (script : Script) : List UInt32 :=
  [script.startLine, script.lineCount, script.sourceStart, script.sourceLength]

theorem sentinelsIn_toJson (script : Script) :
    sentinelsIn script.toJson.write = straysIn script := by
  have hnames : sentinelsIn (Json.writeString "displayName".toList) = 0 ∧
      sentinelsIn (Json.writeString "url".toList) = 0 ∧
      sentinelsIn (Json.writeString "startLine".toList) = 0 ∧
      sentinelsIn (Json.writeString "lineCount".toList) = 0 ∧
      sentinelsIn (Json.writeString "sourceStart".toList) = 0 ∧
      sentinelsIn (Json.writeString "sourceLength".toList) = 0 := by
    decide +kernel
  obtain ⟨hname, hurl, hfirst, hlines, hstart, hlength⟩ := hnames
  have hdisplayed : sentinelsIn (ofOption Json.Value.string script.displayName).write =
      script.displayName.elim 0 fun name => sentinelsIn (Json.writeString name.toList) := by
    cases script.displayName <;> rfl
  rw [Script.toJson, sentinelsIn_object]
  simp only [List.map_cons, List.map_nil, List.sum_cons, List.sum_nil, sentinelsIn_word, hname,
    hurl, hfirst, hlines, hstart, hlength, hdisplayed, Nat.zero_add, Nat.add_zero]
  rfl

theorem strays_eq (id : CompilationId) (scripts : List Script) :
    strays id scripts = sentinelsIn id.text.toList + (scripts.map straysIn).sum := by
  rw [strays, write_id, ofList, sentinelsIn_array, List.map_map]
  simp only [Function.comp_def, sentinelsIn_toJson]

theorem sentinelsIn_envelope (id : CompilationId) (scripts : List Script) :
    sentinelsIn (envelope id scripts).toList = 1 + strays id scripts := by
  rw [← count_sentinelDigits, count_envelope, count_sentinelDigits, count_sentinelDigits, strays,
    write_id, render, String.toList_ofList, Nat.add_comm]

theorem exists_encode_of_strays {frame : GraphFrame}
    (hnone : strays frame.id frame.scripts = 0) : ∃ text, frame.encode = .ok text := by
  have hcount := sentinelsIn_envelope frame.id frame.scripts
  rw [hnone] at hcount
  exact exists_encode ((count_sentinelDigits _).trans hcount)

theorem encode_eq_error {frame : GraphFrame} (hsome : strays frame.id frame.scripts ≠ 0) :
    frame.encode = .error (.sentinelCollision (1 + strays frame.id frame.scripts)) := by
  have hcount := sentinelsIn_envelope frame.id frame.scripts
  have hother : sentinelsIn (envelope frame.id frame.scripts).toList ≠ 1 := by omega
  rw [encode, spliceGraph_eq_error _ hother, hcount]

/-- A frame that can be written is its envelope with the graph text in the place of the graph. -/
theorem exists_place_of_encode {frame : GraphFrame} {text : Frame}
    (htext : frame.encode = .ok text) :
    ∃ before, (envelope frame.id frame.scripts).toList = before ++ (sentinelDigits ++ ['\x7d']) ∧
      "\"graph\":".toList <:+ before ∧
      text.toList = before ++ (frame.graph.text.toList ++ ['\x7d']) := by
  have hname : Json.writeString "graph".toList ++ [':'] = "\"graph\":".toList := by decide
  refine ⟨'\x7b' :: (Json.memberRow (leadMembers frame.id frame.scripts) ++ "\"graph\":".toList),
    ?_, ?_, ?_⟩
  · rw [toList_envelope, Json.objectWith_eq_append, hname]
  · rw [← List.cons_append]
    exact List.suffix_append _ _
  · rw [toList_of_encode htext, Json.objectWith_eq_append, hname]

/-- **When a graph frame cannot be sent.**  The only error is a collision, which counts the place of
the graph and all other positions of the sentinel in the id and the scripts as they are written.
There is an error if and only if there are such positions.  A frame that can be sent is the envelope
with the graph text for the value of `graph`, and nothing else is changed.  Other positions are
those in the id, in the names and in the urls; in a name or url the digits stand as they are or go
on behind the escape of U+0019.  The numbers of a script have none. -/
theorem encode_refused_iff (frame : GraphFrame) :
    (∀ error, frame.encode = .error error →
      error = .sentinelCollision (1 + strays frame.id frame.scripts)) ∧
    ((∃ error, frame.encode = .error error) ↔ strays frame.id frame.scripts ≠ 0) ∧
    (∀ text, frame.encode = .ok text → ∃ before,
      (envelope frame.id frame.scripts).toList = before ++ (sentinelDigits ++ ['\x7d']) ∧
      "\"graph\":".toList <:+ before ∧
      text.toList = before ++ (frame.graph.text.toList ++ ['\x7d'])) ∧
    strays frame.id frame.scripts =
      sentinelsIn frame.id.text.toList + (frame.scripts.map straysIn).sum ∧
    (∀ text, sentinelsIn (Json.writeString text) =
      sentinelsIn text + occurrences ('\x19' :: sentinelTail) text) ∧
    ∀ script ∈ frame.scripts, ∀ number ∈ numbersOf script,
      sentinelsIn (natural number.toNat).write = 0 := by
  have hrefused : (∀ error, frame.encode = .error error →
      error = .sentinelCollision (1 + strays frame.id frame.scripts)) ∧
      ((∃ error, frame.encode = .error error) ↔ strays frame.id frame.scripts ≠ 0) := by
    by_cases hnone : strays frame.id frame.scripts = 0
    · obtain ⟨text, htext⟩ := exists_encode_of_strays hnone
      rw [htext]
      exact ⟨nofun, nofun, fun hsome => absurd hnone hsome⟩
    · rw [encode_eq_error hnone]
      exact ⟨fun error herror => (Except.error.inj herror).symm, fun _ => hnone, fun _ => ⟨_, rfl⟩⟩
  exact ⟨hrefused.1, hrefused.2, fun text => exists_place_of_encode,
    strays_eq frame.id frame.scripts, sentinelsIn_writeString,
    fun _ _ number _ => sentinelsIn_word number⟩

/-- A name without the sentinel that is written with it. -/
example : sentinelsIn "\x19007199254740881".toList = 0 ∧
    sentinelsIn (Json.writeString "\x19007199254740881".toList) = 1 := by decide +kernel

end GraphFrame

end CompileWatch
