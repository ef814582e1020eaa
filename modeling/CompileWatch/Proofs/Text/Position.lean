import CompileWatch.Proofs.Text.Occurrence
import Mathlib.Data.List.Basic

/-!
# Positions of a token

A token stands at a position of a text if the text goes on with it there, no matter what
else begins before it ends.  The search of `Text.count` goes on behind each occurrence that
it finds, so it could miss some positions.  A token without a border cannot overlap with
itself, and then the search finds them all (`count_eq_occurrences`).

A text in which a token has one position is split by it in one way only (`SplitsAlone`),
and to replace the first occurrence is to replace the one between the two parts.
-/

namespace CompileWatch.Text

variable {token before after text : List Char} {c : Char} {position : Nat}

/-- The positions at which the token stands in a text, also where it overlaps with itself. -/
def positions (token text : List Char) : List Nat :=
  (List.range text.length).filter fun position => token <+: text.drop position

/-- At how many positions the token stands in a text. -/
def occurrences (token text : List Char) : Nat :=
  (positions token text).length

/-- The token stands between these two parts of the text, and nowhere else in it. -/
def SplitsAlone (token text before after : List Char) : Prop :=
  ∀ front back, text = front ++ (token ++ back) ↔ front = before ∧ back = after

/-! ## Positions -/

theorem positions_cons (token : List Char) (c : Char) (text : List Char) :
    positions token (c :: text) =
      (if token <+: c :: text then [0] else []) ++ (positions token text).map (· + 1) := by
  unfold positions
  rw [List.length_cons, List.range_succ_eq_map, List.filter_cons, List.filter_map]
  simp only [List.drop_zero, decide_eq_true_eq, Function.comp_def, Nat.succ_eq_add_one,
    List.drop_succ_cons]
  split_ifs <;> rfl

/-- A position is where the text can be split with the token behind the first part. -/
theorem mem_positions (htoken : token ≠ []) :
    position ∈ positions token text ↔
      ∃ front back, text = front ++ (token ++ back) ∧ front.length = position := by
  unfold positions
  rw [List.mem_filter, List.mem_range, decide_eq_true_eq]
  constructor
  · rintro ⟨hlt, back, hback⟩
    refine ⟨text.take position, back, ?_, ?_⟩
    · rw [hback, List.take_append_drop]
    · rw [List.length_take]
      omega
  · rintro ⟨front, back, rfl, rfl⟩
    rw [List.drop_left]
    have hpos := List.length_pos_iff.mpr htoken
    simp only [List.length_append]
    exact ⟨by omega, List.prefix_append token back⟩

/-! ## Counting positions -/

theorem occurrences_cons (token : List Char) (c : Char) (text : List Char) :
    occurrences token (c :: text) =
      (if token <+: c :: text then 1 else 0) + occurrences token text := by
  unfold occurrences
  rw [positions_cons, List.length_append, List.length_map]
  split_ifs <;> rfl

/-- A token begins with its first character only. -/
theorem occurrences_cons_cons (first : Char) (others : List Char) (c : Char) (text : List Char) :
    occurrences (first :: others) (c :: text) =
      (if c = first ∧ others <+: text then 1 else 0) + occurrences (first :: others) text := by
  rw [occurrences_cons]
  simp only [List.cons_prefix_cons, eq_comm]

/-- What is left out in front of all positions has no part in them. -/
theorem occurrences_drop {start : Nat}
    (hstart : ∀ position ∈ positions token text, start ≤ position) :
    occurrences token (text.drop start) = occurrences token text := by
  induction start generalizing text with
  | zero => rw [List.drop_zero]
  | succ start ih =>
      cases text with
      | nil => rw [List.drop_nil]
      | cons c text =>
          rw [positions_cons] at hstart
          have hfirst : ¬ token <+: c :: text := by
            intro hfound
            have := hstart 0 (by simp [hfound])
            omega
          rw [List.drop_succ_cons, occurrences_cons, if_neg hfirst, Nat.zero_add]
          apply ih
          intro position hposition
          have := hstart (position + 1) (by simp [hposition])
          omega

/-- Behind an occurrence of a token without a border, the next one begins where it ends. -/
theorem le_of_mem_positions (htoken : token ≠ []) (hborder : Borderless token)
    (hfound : token <+: c :: text) (hposition : position ∈ positions token text) :
    token.length - 1 ≤ position := by
  obtain ⟨front, back, rfl, rfl⟩ := (mem_positions htoken).mp hposition
  have hle := length_le_of_borderless hborder (List.cons_ne_nil c front) hfound
  rw [List.length_cons] at hle
  omega

/-- **A search that goes on behind each occurrence finds all positions** of a token that has no
border. -/
theorem count_eq_occurrences (htoken : token ≠ []) (hborder : Borderless token)
    (text : List Char) : count token text = occurrences token text := by
  -- the search may leave out several characters, so the induction is on the length
  induction hlength : text.length using Nat.strongRecOn generalizing text with
  | ind length ih =>
      cases text with
      | nil => rfl
      | cons c text =>
          rw [List.length_cons] at hlength
          rw [occurrences_cons]
          by_cases hfound : token <+: c :: text
          · have hshorter : (text.drop (token.length - 1)).length < length := by
              rw [List.length_drop]
              omega
            rw [if_pos hfound, count_cons_of_isPrefix hfound, ih _ hshorter _ rfl,
              occurrences_drop fun _ => le_of_mem_positions htoken hborder hfound]
          · rw [if_neg hfound, count_cons_of_not_isPrefix hfound, Nat.zero_add]
            exact ih text.length (by omega) text rfl

/-! ## A single position -/

theorem exists_splitsAlone (htoken : token ≠ []) (hone : occurrences token text = 1) :
    ∃ before after, SplitsAlone token text before after := by
  obtain ⟨position, hpositions⟩ := List.length_eq_one_iff.mp hone
  have hmem : position ∈ positions token text := by
    rw [hpositions]
    exact List.mem_singleton_self position
  obtain ⟨before, after, htext, hlength⟩ := (mem_positions htoken).mp hmem
  refine ⟨before, after, ?_⟩
  intro front back
  constructor
  · intro hsplit
    have hother : front.length ∈ positions token text :=
      (mem_positions htoken).mpr ⟨front, back, hsplit, rfl⟩
    rw [hpositions, List.mem_singleton] at hother
    obtain ⟨hfront, hrest⟩ :=
      List.append_inj (hsplit.symm.trans htext) (hother.trans hlength.symm)
    exact ⟨hfront, List.append_cancel_left hrest⟩
  · rintro ⟨rfl, rfl⟩
    exact htext

theorem SplitsAlone.eq_append (hsplit : SplitsAlone token text before after) :
    text = before ++ (token ++ after) :=
  (hsplit before after).mpr ⟨rfl, rfl⟩

end CompileWatch.Text
