import CompileWatch.Text.Splice

/-!
# Replacing the only occurrence of a token

A token without a border, that is, none of whose proper ends is also one of its
beginnings, cannot overlap with itself.  A text in which such a token is found once
from the left then has it nowhere else, so that replacing the first occurrence
replaces the one that is known to be there.
-/

namespace CompileWatch.Text

variable {token before after text : List Char}

/-- No proper end of the token is one of its beginnings. -/
def Borderless (token : List Char) : Prop :=
  ∀ start < token.length, 0 < start → ¬ (token.drop start) <+: token

instance (token : List Char) : Decidable (Borderless token) :=
  inferInstanceAs (Decidable (∀ start < token.length, 0 < start → ¬ (token.drop start) <+: token))

/-! ## Counting -/

theorem countFrom_eq_count_drop (skip : Nat) :
    countFrom token skip text = count token (text.drop skip) := by
  induction text generalizing skip with
  | nil => cases skip <;> rfl
  | cons c text ih =>
      cases skip with
      | zero => rfl
      | succ skip => exact ih skip

theorem count_cons_of_isPrefix {c : Char} (hfound : token <+: c :: text) :
    count token (c :: text) = 1 + count token (text.drop (token.length - 1)) := by
  rw [count, countFrom, if_pos (List.isPrefixOf_iff_prefix.mpr hfound), countFrom_eq_count_drop]

theorem count_cons_of_not_isPrefix {c : Char} (hfound : ¬ token <+: c :: text) :
    count token (c :: text) = count token text := by
  rw [count, countFrom, if_neg (mt List.isPrefixOf_iff_prefix.mp hfound), count]

theorem count_pos_of_isPrefix (htoken : token ≠ []) (hfound : token <+: text) :
    0 < count token text := by
  cases text with
  | nil => exact absurd (List.prefix_nil.mp hfound) htoken
  | cons c text =>
      rw [count_cons_of_isPrefix hfound]
      omega

/-- A token that is somewhere in a text is found there. -/
theorem count_append_pos (htoken : token ≠ []) (before after : List Char) :
    0 < count token (before ++ (token ++ after)) := by
  induction before with
  | nil => exact count_pos_of_isPrefix htoken (List.prefix_append token after)
  | cons c before ih =>
      rw [List.cons_append]
      by_cases hfound : token <+: c :: (before ++ (token ++ after))
      · exact count_pos_of_isPrefix htoken hfound
      · rw [count_cons_of_not_isPrefix hfound]
        exact ih

/-! ## Counting on both sides of a separator -/

/-- A token stops before a character that it does not have. -/
theorem isPrefix_append_cons {separator : Char} (hseparator : separator ∉ token)
    (before after : List Char) : token <+: before ++ separator :: after ↔ token <+: before := by
  constructor
  · intro hfound
    by_cases hlength : token.length ≤ before.length
    · exact List.prefix_of_prefix_length_le hfound (List.prefix_append before _) hlength
    · -- a longer token would reach the separator
      have hreached : before ++ [separator] <+: token := by
        refine List.prefix_of_prefix_length_le ⟨after, by simp⟩ hfound ?_
        rw [List.length_append, List.length_singleton]
        omega
      exact absurd (hreached.subset (by simp)) hseparator
  · exact fun hfound => hfound.trans (List.prefix_append before _)

theorem countFrom_append_cons {separator : Char} (htoken : token ≠ [])
    (hseparator : separator ∉ token) {skip : Nat} (hskip : skip ≤ before.length)
    (after : List Char) :
    countFrom token skip (before ++ separator :: after) =
      countFrom token skip before + count token after := by
  induction before generalizing skip with
  | nil =>
      obtain rfl : skip = 0 := Nat.le_zero.mp hskip
      have hfound : ¬ token <+: separator :: after := by
        rw [← List.nil_append (separator :: after), isPrefix_append_cons hseparator,
          List.prefix_nil]
        exact htoken
      show count token (separator :: after) = count token [] + count token after
      rw [count_cons_of_not_isPrefix hfound]
      simp [count, countFrom]
  | cons c before ih =>
      rw [List.length_cons] at hskip
      cases skip with
      | succ skip => exact ih (by omega)
      | zero =>
          by_cases hfound : token <+: c :: before
          · have hlength : token.length ≤ before.length + 1 := hfound.length_le
            have hlonger : token.isPrefixOf (c :: (before ++ separator :: after)) :=
              List.isPrefixOf_iff_prefix.mpr ((isPrefix_append_cons hseparator _ _).mpr hfound)
            rw [List.cons_append, countFrom, if_pos hlonger, countFrom,
              if_pos (List.isPrefixOf_iff_prefix.mpr hfound), ih (by omega), Nat.add_assoc]
          · have hlonger : ¬ token.isPrefixOf (c :: (before ++ separator :: after)) := by
              rw [List.isPrefixOf_iff_prefix]
              exact mt (isPrefix_append_cons hseparator (c :: before) after).mp hfound
            rw [List.cons_append, countFrom, if_neg hlonger, countFrom,
              if_neg (mt List.isPrefixOf_iff_prefix.mp hfound), ih (Nat.zero_le _)]

/-- Occurrences do not reach across a character that the token does not have. -/
theorem count_append_cons {separator : Char} (htoken : token ≠ [])
    (hseparator : separator ∉ token) (before after : List Char) :
    count token (before ++ separator :: after) = count token before + count token after :=
  countFrom_append_cons htoken hseparator (Nat.zero_le _) after

theorem count_eq_zero_iff (htoken : token ≠ []) : count token text = 0 ↔ ¬ token <:+: text := by
  constructor
  · rintro hcount ⟨before, after, rfl⟩
    rw [List.append_assoc] at hcount
    have := count_append_pos htoken before after
    omega
  · intro hnone
    induction text with
    | nil => rfl
    | cons c text ih =>
        rw [List.infix_cons_iff, not_or] at hnone
        rw [count_cons_of_not_isPrefix hnone.1]
        exact ih hnone.2

/-! ## Replacing -/

/-- An occurrence of a token without a border ends before the next one begins. -/
theorem length_le_of_borderless (hborder : Borderless token) (hbefore : before ≠ [])
    (hfound : token <+: before ++ (token ++ after)) : token.length ≤ before.length := by
  refine Nat.not_lt.mp fun hlt => ?_
  have hbeginning : before <+: token :=
    List.prefix_of_prefix_length_le (List.prefix_append before _) hfound (by omega)
  obtain ⟨ending, rfl⟩ := hbeginning
  have hending : ending <+: before ++ ending := by
    refine List.prefix_of_prefix_length_le ?_ (List.prefix_append (before ++ ending) after)
      (by simp)
    exact (List.prefix_append_right_inj before).mp hfound
  refine hborder before.length (by omega) (List.length_pos_iff.mpr hbefore) ?_
  rwa [List.drop_left]

/-- The only occurrence of a token without a border is the one that is replaced. -/
theorem replaceFirst_of_count_eq_one (htoken : token ≠ []) (hborder : Borderless token)
    (replacement : List Char) (hcount : count token (before ++ (token ++ after)) = 1) :
    replaceFirst token replacement (before ++ (token ++ after)) =
      before ++ (replacement ++ after) := by
  induction before with
  | nil =>
      obtain ⟨first, rest, rfl⟩ := List.exists_cons_of_ne_nil htoken
      have hfound : (first :: rest).isPrefixOf (first :: (rest ++ after)) :=
        List.isPrefixOf_iff_prefix.mpr (List.prefix_append (first :: rest) after)
      simp only [List.nil_append, List.cons_append, replaceFirst, if_pos hfound]
      simp
  | cons c before ih =>
      rw [List.cons_append] at hcount ⊢
      by_cases hfound : token <+: c :: (before ++ (token ++ after))
      · -- a first occurrence would leave the known one for a second
        have hlength := length_le_of_borderless hborder (List.cons_ne_nil c before) hfound
        rw [count_cons_of_isPrefix hfound,
          List.drop_append_of_le_length (by simp at hlength; omega)] at hcount
        have := count_append_pos htoken (before.drop (token.length - 1)) after
        omega
      · rw [count_cons_of_not_isPrefix hfound] at hcount
        rw [replaceFirst, if_neg (mt List.isPrefixOf_iff_prefix.mp hfound), ih hcount]
        rfl

end CompileWatch.Text
