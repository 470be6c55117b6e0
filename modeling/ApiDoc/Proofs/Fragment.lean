/-
This file relates the search for fragments to the occurrences of one list in another, and says what
remains of a fragment when it is replaced or removed. A fragment that starts with a mark and holds the
mark nowhere else cannot overlap itself, so nothing that its replacement touches becomes a new
occurrence.
-/
import ApiDoc.Text.Search

namespace ApiDoc.Text

/-! ### Occurrences -/

/-- A text mentions a fragment exactly if the fragment is a contiguous part of it. -/
theorem mentions_iff (text fragment : Text) :
    text.mentions fragment = true ↔ fragment <:+: text := by
  induction text with
  | nil => simp [mentions]
  | cons point rest inductionHypothesis =>
    rw [mentions, Bool.or_eq_true, List.isPrefixOf_iff_prefix, inductionHypothesis,
      List.infix_cons_iff]

/-- An occurrence that starts with a mark does not start where the mark is missing. -/
theorem infix_of_infix_append {mark : CodePoint} {others before after : Text}
    (unmarked : mark ∉ before) (occurrence : (mark :: others) <:+: before ++ after) :
    (mark :: others) <:+: after := by
  induction before with
  | nil => exact occurrence
  | cons point rest inductionHypothesis =>
    rw [List.mem_cons, not_or] at unmarked
    rw [List.cons_append, List.infix_cons_iff, List.cons_prefix_cons] at occurrence
    rcases occurrence with ⟨same, _⟩ | later
    · exact absurd same unmarked.1
    · exact inductionHypothesis unmarked.2 later

/-- A text that lacks a code point and starts another one ends before it. -/
theorem prefix_of_prefix_append_cons {fragment before after : Text} {seam : CodePoint}
    (lacks : seam ∉ fragment) (start : fragment <+: before ++ seam :: after) :
    fragment <+: before := by
  induction before generalizing fragment with
  | nil =>
    cases fragment with
    | nil => exact List.nil_prefix
    | cons point rest =>
      rw [List.nil_append, List.cons_prefix_cons] at start
      exact absurd (start.1 ▸ List.mem_cons_self) lacks
  | cons first before inductionHypothesis =>
    cases fragment with
    | nil => exact List.nil_prefix
    | cons point rest =>
      rw [List.mem_cons, not_or] at lacks
      rw [List.cons_append, List.cons_prefix_cons] at start
      rw [List.cons_prefix_cons]
      exact ⟨start.1, inductionHypothesis lacks.2 start.2⟩

/-- An occurrence that lacks a code point lies before it or after it. -/
theorem infix_of_infix_append_cons {fragment before after : Text} {seam : CodePoint}
    (lacks : seam ∉ fragment) (occurrence : fragment <:+: before ++ seam :: after) :
    fragment <:+: before ∨ fragment <:+: after := by
  induction before with
  | nil =>
    rw [List.nil_append, List.infix_cons_iff] at occurrence
    rcases occurrence with atSeam | later
    · have atStart : fragment <+: [] ++ seam :: after := atSeam
      exact Or.inl (prefix_of_prefix_append_cons lacks atStart).isInfix
    · exact Or.inr later
  | cons point rest inductionHypothesis =>
    rw [List.cons_append, List.infix_cons_iff, ← List.cons_append] at occurrence
    rcases occurrence with atStart | later
    · exact Or.inl (prefix_of_prefix_append_cons lacks atStart).isInfix
    · rcases inductionHypothesis later with inside | outside
      · exact Or.inl (List.infix_cons inside)
      · exact Or.inr outside

/-! ### Replacement -/

section Replacement

variable {fragment replacement : Text}

/-- Where the fragment does not occur, nothing is replaced. -/
theorem replaceFrom_of_not_infix {text : Text} (absent : ¬ fragment <:+: text) :
    replaceFrom fragment replacement 0 text = text := by
  induction text with
  | nil => rfl
  | cons point rest inductionHypothesis =>
    rw [List.infix_cons_iff, not_or] at absent
    rw [replaceFrom, if_neg (by rw [List.isPrefixOf_iff_prefix]; exact absent.1),
      inductionHypothesis absent.2]

/-- What starts the result of a replacement and lacks the first code point of what is put in starts
the text as well. -/
theorem prefix_of_prefix_replaceFrom {mark : CodePoint} {others start text : Text}
    (unmarked : mark ∉ start)
    (starts : start <+: replaceFrom fragment (mark :: others) 0 text) : start <+: text := by
  induction text generalizing start with
  | nil => exact starts
  | cons point rest inductionHypothesis =>
    cases start with
    | nil => exact List.nil_prefix
    | cons first tail =>
      rw [List.mem_cons, not_or] at unmarked
      rw [replaceFrom] at starts
      split at starts
      · rw [List.cons_append, List.cons_prefix_cons] at starts
        exact absurd starts.1.symm unmarked.1
      · rw [List.cons_prefix_cons] at starts ⊢
        exact ⟨starts.1, inductionHypothesis unmarked.2 starts.2⟩

/-- A fragment does not occur where it has been replaced by a text of the same length, if both start
with a mark that neither holds again. -/
theorem not_infix_replaceFrom (mark : CodePoint) {others substitutes : Text}
    (unmarked : mark ∉ others) (unmarkedSubstitutes : mark ∉ substitutes)
    (sameLength : others.length = substitutes.length) (differ : others ≠ substitutes)
    (covered : Nat) (text : Text) :
    ¬ (mark :: others) <:+: replaceFrom (mark :: others) (mark :: substitutes) covered text := by
  fun_induction replaceFrom (mark :: others) (mark :: substitutes) covered text with
  | case1 => simp
  | case2 covered point rest inductionHypothesis => exact inductionHypothesis
  | case3 point rest begins inductionHypothesis =>
    rw [List.cons_append, List.infix_cons_iff, List.cons_prefix_cons]
    rintro (⟨_, atStart⟩ | later)
    · refine differ (List.IsPrefix.eq_of_length ?_ sameLength)
      exact List.prefix_of_prefix_length_le atStart (List.prefix_append _ _)
        (Nat.le_of_eq sameLength)
    · exact inductionHypothesis (infix_of_infix_append unmarkedSubstitutes later)
  | case4 point rest differs inductionHypothesis =>
    rw [List.infix_cons_iff, List.cons_prefix_cons]
    rintro (⟨same, atStart⟩ | later)
    · refine differs ?_
      rw [List.isPrefixOf_iff_prefix, List.cons_prefix_cons]
      exact ⟨same, prefix_of_prefix_replaceFrom unmarked atStart⟩
    · exact inductionHypothesis later

/-- Where the replacement does not occur afterwards, nothing was replaced. -/
theorem replaceFrom_of_not_infix_replaceFrom {text : Text}
    (absent : ¬ replacement <:+: replaceFrom fragment replacement 0 text) :
    replaceFrom fragment replacement 0 text = text := by
  induction text with
  | nil => rfl
  | cons point rest inductionHypothesis =>
    rw [replaceFrom] at absent ⊢
    split at absent
    · exact absurd (List.prefix_append _ _).isInfix absent
    · rename_i differs
      rw [if_neg differs, inductionHypothesis fun later => absent (List.infix_cons later)]

/-- An ending that starts with a mark does not start where the mark is missing. -/
theorem suffix_of_suffix_append {mark : CodePoint} {others before after : Text}
    (unmarked : mark ∉ before) (ending : (mark :: others) <:+ before ++ after) :
    (mark :: others) <:+ after := by
  induction before with
  | nil => exact ending
  | cons point rest inductionHypothesis =>
    rw [List.mem_cons, not_or] at unmarked
    rw [List.cons_append, List.suffix_cons_iff, List.cons.injEq] at ending
    rcases ending with ⟨same, _⟩ | later
    · exact absurd same unmarked.1
    · exact inductionHypothesis unmarked.2 later

/-- A text has the endings that it has after a replacement, but for those that hold what is put in or
start within it. -/
theorem suffix_of_suffix_replaceFrom {mark : CodePoint} {others : Text}
    (unmarked : mark ∉ replacement) (lacks : ¬ replacement <:+: others) {covered : Nat} {text : Text}
    (ending : (mark :: others) <:+ replaceFrom fragment replacement covered text) :
    (mark :: others) <:+ text := by
  fun_induction replaceFrom fragment replacement covered text with
  | case1 => exact ending
  | case2 covered point rest inductionHypothesis =>
    exact (inductionHypothesis ending).trans (List.suffix_cons point rest)
  | case3 point rest begins inductionHypothesis =>
    exact (inductionHypothesis (suffix_of_suffix_append unmarked ending)).trans
      (List.suffix_cons point rest)
  | case4 point rest differs inductionHypothesis =>
    rcases List.suffix_cons_iff.mp ending with whole | later
    · obtain ⟨rfl, rfl⟩ := List.cons.inj whole
      exact ⟨[], congrArg (List.cons _) (replaceFrom_of_not_infix_replaceFrom lacks)⟩
    · exact (inductionHypothesis later).trans (List.suffix_cons point rest)

end Replacement

/-! ### Removal -/

/-- What the last replacement has consumed is passed over. -/
theorem replaceFrom_of_length_le (fragment replacement : Text) {covered : Nat} {text : Text}
    (passed : text.length ≤ covered) : replaceFrom fragment replacement covered text = [] := by
  induction text generalizing covered with
  | nil => cases covered <;> rfl
  | cons point rest inductionHypothesis =>
    cases covered with
    | zero => cases passed
    | succ covered => exact inductionHypothesis (Nat.le_of_succ_le_succ passed)

theorem replaceFrom_self {fragment : Text} (nonempty : fragment ≠ []) (replacement : Text) :
    replaceFrom fragment replacement 0 fragment = replacement := by
  cases fragment with
  | nil => exact absurd rfl nonempty
  | cons mark others =>
    have passed : others.length ≤ (mark :: others).length - 1 := Nat.le_refl _
    rw [replaceFrom, if_pos (List.isPrefixOf_iff_prefix.mpr (List.prefix_refl _)),
      replaceFrom_of_length_le _ _ passed, List.append_nil]

/-- A fragment that starts with a mark and holds it nowhere else is replaced where it ends a text,
whatever is before it. -/
theorem replaceFrom_append_self {mark : CodePoint} {others : Text} (unmarked : mark ∉ others)
    (replacement : Text) (covered : Nat) (before : Text) (inside : covered ≤ before.length) :
    replaceFrom (mark :: others) replacement covered (before ++ mark :: others) =
      replaceFrom (mark :: others) replacement covered before ++ replacement := by
  induction before generalizing covered with
  | nil =>
    obtain rfl : covered = 0 := Nat.le_zero.mp inside
    exact replaceFrom_self (List.cons_ne_nil mark others) replacement
  | cons point rest inductionHypothesis =>
    cases covered with
    | succ covered => exact inductionHypothesis covered (Nat.le_of_succ_le_succ inside)
    | zero =>
      have same : (mark :: others).isPrefixOf (point :: (rest ++ mark :: others)) =
          (mark :: others).isPrefixOf (point :: rest) := by
        rw [Bool.eq_iff_iff, List.isPrefixOf_iff_prefix, List.isPrefixOf_iff_prefix,
          List.cons_prefix_cons, List.cons_prefix_cons]
        exact and_congr_right fun _ => ⟨prefix_of_prefix_append_cons unmarked,
          fun starts => starts.trans (List.prefix_append _ _)⟩
      rw [List.cons_append, replaceFrom, replaceFrom, same]
      split
      · rename_i begins
        have short := (List.isPrefixOf_iff_prefix.mp begins).length_le
        rw [inductionHypothesis _ (Nat.sub_le_of_le_add short), List.append_assoc]
      · rw [inductionHypothesis 0 (Nat.zero_le _), List.cons_append]

theorem length_replaceFrom_nil_le (fragment : Text) (covered : Nat) (text : Text) :
    (replaceFrom fragment [] covered text).length ≤ text.length := by
  fun_induction replaceFrom fragment [] covered text with
  | case1 => exact Nat.le_refl _
  | case2 covered point rest inductionHypothesis => exact Nat.le_succ_of_le inductionHypothesis
  | case3 point rest begins inductionHypothesis => exact Nat.le_succ_of_le inductionHypothesis
  | case4 point rest differs inductionHypothesis => exact Nat.succ_le_succ inductionHypothesis

/-- A text becomes shorter when a fragment that occurs in it is removed. -/
theorem length_replaceFrom_nil_lt {fragment text : Text} (nonempty : fragment ≠ [])
    (occurs : fragment <:+: text) : (replaceFrom fragment [] 0 text).length < text.length := by
  induction text with
  | nil => exact absurd (List.infix_nil.mp occurs) nonempty
  | cons point rest inductionHypothesis =>
    rw [replaceFrom]
    split
    · exact Nat.lt_succ_of_le (length_replaceFrom_nil_le fragment _ rest)
    · rename_i differs
      have later := (List.infix_cons_iff.mp occurs).resolve_left fun starts =>
        differs (List.isPrefixOf_iff_prefix.mpr starts)
      exact Nat.succ_lt_succ (inductionHypothesis later)

/-- Removing a fragment leaves exactly those texts as they are that do not mention it. -/
theorem replacing_nil_eq_self_iff {fragment : Text} (nonempty : fragment ≠ []) (text : Text) :
    text.replacing fragment [] = text ↔ text.mentions fragment = false := by
  rw [← Bool.not_eq_true, mentions_iff]
  constructor
  · intro same occurs
    exact Nat.ne_of_lt (length_replaceFrom_nil_lt nonempty occurs) (congrArg List.length same)
  · exact replaceFrom_of_not_infix

end ApiDoc.Text
