/-
This file proves that the correction of a path does not change what the path tells. Two texts that
differ in the spelling of one code point have the same occurrences of every fragment that cannot
cover this code point, and the fragments that are looked for in a path are such: none of them
reaches the letter of the table template that changes, and none of them reaches into the format that
is added.
-/
import ApiDoc.Proofs.PathStability
import Mathlib.Data.List.Infix

namespace ApiDoc

namespace Text

/-! ### Spellings -/

/-- The second text is the first with a fragment replaced at some of the places where it stands. -/
inductive Respelled (fragment replacement : Text) : Text → Text → Prop where
  | nil : Respelled fragment replacement [] []
  | keep (point : CodePoint) {rest others : Text}
    (later : Respelled fragment replacement rest others) :
    Respelled fragment replacement (point :: rest) (point :: others)
  | replace {rest others : Text} (later : Respelled fragment replacement rest others) :
    Respelled fragment replacement (fragment ++ rest) (replacement ++ others)

variable {fragment replacement text other : Text}

theorem Respelled.symm (respelled : Respelled fragment replacement text other) :
    Respelled replacement fragment other text := by
  induction respelled with
  | nil => exact .nil
  | keep point later inductionHypothesis => exact .keep point inductionHypothesis
  | replace later inductionHypothesis => exact .replace inductionHypothesis

/-- A replacement respells what it has not passed over. -/
theorem respelled_replaceFrom (nonempty : fragment ≠ []) (replacement : Text) (covered : Nat)
    (text : Text) :
    Respelled fragment replacement (text.drop covered)
      (replaceFrom fragment replacement covered text) := by
  fun_induction replaceFrom fragment replacement covered text with
  | case1 =>
    rw [List.drop_nil]
    exact .nil
  | case2 covered point rest inductionHypothesis => exact inductionHypothesis
  | case3 point rest begins inductionHypothesis =>
    obtain ⟨after, whole⟩ := List.isPrefixOf_iff_prefix.mp begins
    have left : rest.drop (fragment.length - 1) = after := by
      cases fragment with
      | nil => exact absurd rfl nonempty
      | cons first others =>
        rw [List.cons_append, List.cons.injEq] at whole
        rw [← whole.2]
        exact List.drop_left
    rw [left] at inductionHypothesis
    rw [List.drop_zero, ← whole]
    exact .replace inductionHypothesis
  | case4 point rest differs inductionHypothesis => exact .keep point inductionHypothesis

/-! ### Fragments that do not reach a code point -/

/-- No occurrence of the fragment covers the point where that follows the start: the fragment
neither holds the two together nor begins within the start and goes on with the point. -/
def IsApart (start : Text) (point : CodePoint) (fragment : Text) : Prop :=
  ¬ (start ++ [point]) <:+: fragment ∧
    ∀ ending ∈ start.tails, ¬ (ending ++ [point]) <+: fragment

instance (start : Text) (point : CodePoint) : DecidablePred (IsApart start point) := fun fragment =>
  inferInstanceAs (Decidable (¬ (start ++ [point]) <:+: fragment ∧
    ∀ ending ∈ start.tails, ¬ (ending ++ [point]) <+: fragment))

variable {start ending : Text} {old new : CodePoint}

/-- What begins a text and does not hold a start with the point after it ends before the point. -/
theorem prefix_of_prefix_append_point {piece after : Text} (clear : ¬ (start ++ [old]) <:+: piece)
    (begins : piece <+: start ++ old :: after) : piece <+: start := by
  have whole : (start ++ [old]) <+: start ++ old :: after :=
    ⟨after, List.append_cons start old after ▸ rfl⟩
  rcases List.prefix_or_prefix_of_prefix begins whole with short | long
  · rcases List.prefix_concat_iff.mp short with rfl | shorter
    · exact absurd List.infix_rfl clear
    · exact shorter
  · exact absurd long.isInfix clear

theorem Respelled.start_of_start
    (respelled : Respelled (start ++ old :: ending) (start ++ new :: ending) text other)
    {piece : Text} (clear : ¬ (start ++ [old]) <:+: piece) (begins : piece <+: text) :
    piece <+: other := by
  induction respelled generalizing piece with
  | nil => exact begins
  | keep point later inductionHypothesis =>
    cases piece with
    | nil => exact List.nil_prefix
    | cons first tail =>
      rw [List.cons_prefix_cons] at begins ⊢
      exact ⟨begins.1, inductionHypothesis (fun occurs => clear (List.infix_cons occurs)) begins.2⟩
  | replace later inductionHypothesis =>
    rw [List.append_assoc] at begins ⊢
    exact (prefix_of_prefix_append_point clear begins).trans (List.prefix_append start _)

/-- An occurrence behind the point that changes lies in what is left of the fragment there, in the
rest of the text, or across the two. -/
theorem infix_of_infix_append_ending {rest others : Text}
    (later : Respelled (start ++ old :: ending) (start ++ new :: ending) rest others)
    (occursLater : fragment <:+: rest → fragment <:+: others)
    (clear : ¬ (start ++ [old]) <:+: fragment) (occurs : fragment <:+: ending ++ rest) :
    fragment <:+: ending ++ others := by
  rcases List.infix_append_iff.mp occurs with inside | behind | ⟨before, after, rfl, ends, begins⟩
  · exact inside.trans (List.prefix_append ending others).isInfix
  · exact (occursLater behind).trans (List.suffix_append ending others).isInfix
  · have clearAfter : ¬ (start ++ [old]) <:+: after := fun within =>
      clear (within.trans (List.suffix_append before after).isInfix)
    exact List.infix_append_iff.mpr
      (Or.inr (Or.inr ⟨before, after, rfl, ends, later.start_of_start clearAfter begins⟩))

/-- A fragment that cannot cover the point that changes occurs after the change if it did before. -/
theorem Respelled.occurrence_of_occurrence
    (respelled : Respelled (start ++ old :: ending) (start ++ new :: ending) text other)
    (apart : IsApart start old fragment) (occurs : fragment <:+: text) : fragment <:+: other := by
  induction respelled with
  | nil => exact occurs
  | keep point later inductionHypothesis =>
    rcases List.infix_cons_iff.mp occurs with begins | occursLater
    · exact ((Respelled.keep point later).start_of_start apart.1 begins).isInfix
    · exact List.infix_cons (inductionHypothesis occursLater)
  | @replace rest others later inductionHypothesis =>
    rw [List.append_assoc, List.cons_append] at occurs ⊢
    -- The occurrence lies before the point, begins before it and covers it, or lies behind it.
    rcases List.infix_append_iff.mp occurs with inside | behind | ⟨before, after, rfl, ends, begins⟩
    · exact inside.trans (List.prefix_append start _).isInfix
    · refine (infix_of_infix_append_ending later inductionHypothesis apart.1 ?_).trans
        ((List.suffix_cons new _).trans (List.suffix_append start _)).isInfix
      rcases List.infix_cons_iff.mp behind with begins | occursBehind
      · rcases List.prefix_cons_iff.mp begins with rfl | ⟨tail, rfl, _⟩
        · exact List.nil_infix
        · exact absurd (List.prefix_append [old] tail) (apart.2 [] (by simp))
      · exact occursBehind
    · rcases List.prefix_cons_iff.mp begins with rfl | ⟨tail, rfl, _⟩
      · rw [List.append_nil]
        exact ends.isInfix.trans (List.prefix_append start _).isInfix
      · exact absurd ⟨tail, List.append_cons before old tail ▸ rfl⟩
          (apart.2 before ((List.mem_tails before start).mpr ends))

/-- A text and its respelling mention the same fragments, if these cover neither of the points. -/
theorem Respelled.mentions_eq
    (respelled : Respelled (start ++ old :: ending) (start ++ new :: ending) text other)
    (apartOld : IsApart start old fragment) (apartNew : IsApart start new fragment) :
    other.mentions fragment = text.mentions fragment := by
  rw [Bool.eq_iff_iff, mentions_iff, mentions_iff]
  exact ⟨respelled.symm.occurrence_of_occurrence apartNew,
    respelled.occurrence_of_occurrence apartOld⟩

end Text

namespace Path

/-! ### What a path tells -/

/-- The fragments that a path is judged by. -/
def tellingFragments : List Text :=
  (["photo", "set", "getreport", "query", "delete", "update", "post"] : List Text) ++ readFragments

/-- The spelling of the table template makes no difference to them. -/
theorem mentions_withTableName {fragment : Text} (telling : fragment ∈ tellingFragments)
    (path : Text) : (withTableName path).mentions fragment = path.mentions fragment := by
  have apart : ∀ fragment ∈ tellingFragments, Text.IsApart "table" (.char 'n') fragment ∧
      Text.IsApart "table" (.char 'N') fragment := by decide
  have respelled : Text.Respelled (("table" : Text) ++ .char 'n' :: ("ame" : Text))
      (("table" : Text) ++ .char 'N' :: ("ame" : Text)) path (withTableName path) :=
    Text.respelled_replaceFrom (by decide) _ 0 path
  exact respelled.mentions_eq (apart fragment telling).1 (apart fragment telling).2

/-- Nor does the format at the end of a path. -/
theorem mentions_append_formatEnding {fragment : Text} (telling : fragment ∈ tellingFragments)
    (path : Text) : (path ++ formatEnding).mentions fragment = path.mentions fragment := by
  have outside : ∀ fragment ∈ tellingFragments, CodePoint.char '.' ∉ fragment ∧
      formatTemplate.mentions fragment = false := by decide
  rw [Bool.eq_iff_iff, Text.mentions_iff, Text.mentions_iff]
  refine ⟨fun occurs => ?_, fun occurs => occurs.trans (List.prefix_append path _).isInfix⟩
  rcases Text.infix_of_infix_append_cons (outside fragment telling).1 occurs with before | after
  · exact before
  · have mentioned := (Text.mentions_iff _ _).mpr after
    rw [(outside fragment telling).2] at mentioned
    cases mentioned

theorem mentions_withReportFormat {fragment : Text} (telling : fragment ∈ tellingFragments)
    (path : Text) : (withReportFormat path).mentions fragment = path.mentions fragment := by
  unfold withReportFormat
  split
  · exact mentions_append_formatEnding telling path
  · rfl

theorem mentions_corrected {fragment : Text} (telling : fragment ∈ tellingFragments)
    (path : Text) : (corrected path).mentions fragment = path.mentions fragment :=
  (mentions_withReportFormat telling _).trans (mentions_withTableName telling path)

theorem reads_corrected (path : Text) : reads (corrected path) = reads path := by
  have reading : readFragments.any (corrected path).mentions = readFragments.any path.mentions := by
    rw [Bool.eq_iff_iff, List.any_eq_true, List.any_eq_true]
    refine exists_congr fun fragment => and_congr_right fun member => ?_
    rw [mentions_corrected (List.mem_append_right _ member)]
  unfold reads
  rw [mentions_corrected (by decide), mentions_corrected (by decide), reading]

/-- The correction of a path leaves nothing to correct, and the path tells as much as before:
whether it reads, runs a report, takes queries, deletes, updates or posts. -/
theorem corrected_tells (path : Text) :
    (corrected path).mentions "tablename" = false ∧
      corrected (corrected path) = corrected path ∧
      reads (corrected path) = reads path ∧
      ∀ fragment ∈ (["getreport", "query", "delete", "update", "post"] : List Text),
        (corrected path).mentions fragment = path.mentions fragment := by
  obtain ⟨spelled, ended⟩ := isStable_corrected path
  refine ⟨?misspelled, ?again, reads_corrected path, ?fragments⟩
  case misspelled =>
    rw [← Bool.not_eq_true, Text.mentions_iff, ← spelled]
    exact not_misspelled_withTableName (corrected path)
  case again => rw [corrected.eq_def (corrected path), spelled, ended]
  case fragments =>
    have telling : ∀ fragment ∈ (["getreport", "query", "delete", "update", "post"] : List Text),
        fragment ∈ tellingFragments := by decide
    exact fun fragment member => mentions_corrected (telling fragment member) path

end Path

end ApiDoc
