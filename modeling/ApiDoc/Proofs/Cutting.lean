/-
This file says how cutting a text at marks goes together with appending and with replacement. A mark
that neither the fragment nor its replacement holds is left where it is, so a text may be cut before
or after the fragment is replaced.
-/
import ApiDoc.Proofs.Fragment

namespace ApiDoc.Text

/-! ### Marks -/

/-- Every text is made of texts without a mark, with the mark between them. -/
theorem marked_induction (mark : CodePoint) {motive : Text → Prop}
    (unmarked : ∀ text, mark ∉ text → motive text)
    (marked : ∀ before after, mark ∉ before → motive after → motive (before ++ mark :: after))
    (text : Text) : motive text := by
  by_cases found : mark ∈ text
  · obtain ⟨before, after, rfl, first⟩ := List.eq_append_cons_of_mem found
    exact marked before after first (marked_induction mark unmarked marked after)
  · exact unmarked text found
termination_by text.length
decreasing_by
  subst_vars
  simp only [List.length_append, List.length_cons]
  omega

variable {mark : CodePoint} {text before : Text}

theorem splitAtMark_ne_nil (mark : CodePoint) (text : Text) : splitAtMark mark text ≠ [] := by
  cases text with
  | nil => exact List.cons_ne_nil _ _
  | cons point rest =>
    rw [splitAtMark]
    split
    · exact List.cons_ne_nil _ _
    · split <;> exact List.cons_ne_nil _ _

/-- A text is cut at a mark, and before it and after it. -/
theorem splitAtMark_append_cons (mark : CodePoint) (before after : Text) :
    splitAtMark mark (before ++ mark :: after) =
      splitAtMark mark before ++ splitAtMark mark after := by
  induction before with
  | nil => simp [splitAtMark]
  | cons point rest inductionHypothesis =>
    rw [List.cons_append, splitAtMark, splitAtMark, inductionHypothesis]
    split
    · rfl
    · cases pieces : splitAtMark mark rest with
      | nil => exact absurd pieces (splitAtMark_ne_nil mark rest)
      | cons piece others => rfl

theorem splitAtMark_of_not_mem (unmarked : mark ∉ text) : splitAtMark mark text = [text] := by
  induction text with
  | nil => rfl
  | cons point rest inductionHypothesis =>
    rw [List.mem_cons, not_or] at unmarked
    rw [splitAtMark, if_neg (Ne.symm unmarked.1), inductionHypothesis unmarked.2]

/-- What is added at the end of a text and is no mark belongs to the last piece. -/
theorem exists_splitAtMark_concat {point : CodePoint} (other : point ≠ mark) (text : Text) :
    ∃ pieces last, splitAtMark mark text = pieces ++ [last] ∧
      splitAtMark mark (text ++ [point]) = pieces ++ [last ++ [point]] := by
  induction text using marked_induction mark with
  | unmarked text unmarked =>
    have still : mark ∉ text ++ [point] := by
      rw [List.mem_append, List.mem_singleton, not_or]
      exact ⟨unmarked, Ne.symm other⟩
    exact ⟨[], text, splitAtMark_of_not_mem unmarked, splitAtMark_of_not_mem still⟩
  | marked before after _ inductionHypothesis =>
    obtain ⟨pieces, last, cut, cutLonger⟩ := inductionHypothesis
    refine ⟨splitAtMark mark before ++ pieces, last, ?_, ?_⟩
    · rw [splitAtMark_append_cons, cut, List.append_assoc]
    · rw [List.append_assoc, List.cons_append, splitAtMark_append_cons, cutLonger,
        List.append_assoc]

theorem cutFirst?_of_not_mem (unmarked : mark ∉ text) : cutFirst? mark text = none := by
  induction text with
  | nil => rfl
  | cons point rest inductionHypothesis =>
    rw [List.mem_cons, not_or] at unmarked
    rw [cutFirst?, if_neg (Ne.symm unmarked.1), inductionHypothesis unmarked.2]
    rfl

theorem cutFirst?_append_cons (unmarked : mark ∉ before) (after : Text) :
    cutFirst? mark (before ++ mark :: after) = some (before, after) := by
  induction before with
  | nil => rw [List.nil_append, cutFirst?, if_pos rfl]
  | cons point rest inductionHypothesis =>
    rw [List.mem_cons, not_or] at unmarked
    rw [List.cons_append, cutFirst?, if_neg (Ne.symm unmarked.1), inductionHypothesis unmarked.2]
    rfl

theorem afterFirst?_of_not_mem (unmarked : mark ∉ text) :
    afterFirst? mark text = none := by
  induction text with
  | nil => rfl
  | cons point rest inductionHypothesis =>
    rw [List.mem_cons, not_or] at unmarked
    rw [afterFirst?, if_neg (Ne.symm unmarked.1), inductionHypothesis unmarked.2]

theorem afterFirst?_append_cons (unmarked : mark ∉ before) (after : Text) :
    afterFirst? mark (before ++ mark :: after) = some after := by
  induction before with
  | nil => rw [List.nil_append, afterFirst?, if_pos rfl]
  | cons point rest inductionHypothesis =>
    rw [List.mem_cons, not_or] at unmarked
    rw [List.cons_append, afterFirst?, if_neg (Ne.symm unmarked.1),
      inductionHypothesis unmarked.2]

/-! ### Replacement -/

section Replacement

variable {fragment replacement : Text}

/-- A fragment that lacks a code point is replaced before it and after it on its own. What the last
replacement has consumed lies before it. -/
theorem replaceFrom_append_cons {seam : CodePoint} (nonempty : fragment ≠ [])
    (lacks : seam ∉ fragment) (after : Text) (covered : Nat) (before : Text)
    (inside : covered ≤ before.length) :
    replaceFrom fragment replacement covered (before ++ seam :: after) =
      replaceFrom fragment replacement covered before ++
        seam :: replaceFrom fragment replacement 0 after := by
  induction before generalizing covered with
  | nil =>
    obtain rfl : covered = 0 := Nat.le_zero.mp inside
    have apart : ¬ fragment.isPrefixOf (seam :: after) = true := by
      rw [List.isPrefixOf_iff_prefix]
      intro starts
      have atStart : fragment <+: [] ++ seam :: after := starts
      exact nonempty (List.prefix_nil.mp (prefix_of_prefix_append_cons lacks atStart))
    simp [replaceFrom, apart]
  | cons point rest inductionHypothesis =>
    cases covered with
    | succ covered =>
      exact inductionHypothesis covered (Nat.le_of_succ_le_succ inside)
    | zero =>
      have same : fragment.isPrefixOf (point :: (rest ++ seam :: after)) =
          fragment.isPrefixOf (point :: rest) := by
        rw [Bool.eq_iff_iff, List.isPrefixOf_iff_prefix, List.isPrefixOf_iff_prefix]
        exact ⟨fun starts => prefix_of_prefix_append_cons lacks starts,
          fun starts => starts.trans (List.prefix_append (point :: rest) _)⟩
      rw [List.cons_append, replaceFrom, replaceFrom, same]
      split
      · rename_i begins
        have short := (List.isPrefixOf_iff_prefix.mp begins).length_le
        rw [List.append_assoc, inductionHypothesis _ (Nat.sub_le_of_le_add short)]
      · rw [inductionHypothesis 0 (Nat.zero_le _), List.cons_append]

/-- A mark that is not put in does not appear by replacement. -/
theorem not_mem_replaceFrom (fresh : mark ∉ replacement) (covered : Nat) {text : Text}
    (unmarked : mark ∉ text) : mark ∉ replaceFrom fragment replacement covered text := by
  fun_induction replaceFrom fragment replacement covered text with
  | case1 => exact unmarked
  | case2 covered point rest inductionHypothesis =>
    exact inductionHypothesis (mt (List.mem_cons_of_mem point) unmarked)
  | case3 point rest begins inductionHypothesis =>
    rw [List.mem_append, not_or]
    exact ⟨fresh, inductionHypothesis (mt (List.mem_cons_of_mem point) unmarked)⟩
  | case4 point rest differs inductionHypothesis =>
    rw [List.mem_cons, not_or] at unmarked ⊢
    exact ⟨unmarked.1, inductionHypothesis unmarked.2⟩

variable (nonempty : fragment ≠ []) (lacks : mark ∉ fragment) (fresh : mark ∉ replacement)

include nonempty lacks

/-- A mark that the fragment lacks stays between the parts of a text. -/
theorem replacing_append_cons (before after : Text) :
    (before ++ mark :: after).replacing fragment replacement =
      before.replacing fragment replacement ++ mark :: after.replacing fragment replacement :=
  replaceFrom_append_cons nonempty lacks after 0 before (Nat.zero_le _)

include fresh

/-- The pieces of a text after a replacement are its pieces with the replacement made in each. -/
theorem splitAtMark_replacing (text : Text) :
    splitAtMark mark (text.replacing fragment replacement) =
      (splitAtMark mark text).map (·.replacing fragment replacement) := by
  induction text using marked_induction mark with
  | unmarked text unmarked =>
    have absent : mark ∉ text.replacing fragment replacement := not_mem_replaceFrom fresh 0 unmarked
    rw [splitAtMark_of_not_mem unmarked, splitAtMark_of_not_mem absent]
    rfl
  | marked before after unmarked inductionHypothesis =>
    have absent : mark ∉ before.replacing fragment replacement := not_mem_replaceFrom fresh 0 unmarked
    rw [replacing_append_cons nonempty lacks, splitAtMark_append_cons, splitAtMark_append_cons,
      splitAtMark_of_not_mem unmarked, splitAtMark_of_not_mem absent, inductionHypothesis]
    rfl

/-- A text is cut at the same mark before and after a replacement. -/
theorem cutFirst?_replacing (text : Text) :
    cutFirst? mark (text.replacing fragment replacement) =
      (cutFirst? mark text).map fun (before, after) =>
        (before.replacing fragment replacement, after.replacing fragment replacement) := by
  induction text using marked_induction mark with
  | unmarked text unmarked =>
    have absent : mark ∉ text.replacing fragment replacement := not_mem_replaceFrom fresh 0 unmarked
    rw [cutFirst?_of_not_mem unmarked, cutFirst?_of_not_mem absent]
    rfl
  | marked before after unmarked _ =>
    have absent : mark ∉ before.replacing fragment replacement := not_mem_replaceFrom fresh 0 unmarked
    rw [replacing_append_cons nonempty lacks, cutFirst?_append_cons unmarked,
      cutFirst?_append_cons absent]
    rfl

end Replacement

end ApiDoc.Text
