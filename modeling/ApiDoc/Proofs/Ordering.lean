/-
This file proves that texts are ordered one after the other, and that a dictionary with distinct keys
has one ascending order: entries that are the same but for their order become the same dictionary
when they are sorted.
-/
import ApiDoc.Proofs.Dictionary
import Mathlib.Data.List.Sort

namespace ApiDoc

/-! ### Texts -/

/-- No character has the number of a surrogate. -/
theorem CodePoint.value_char_ne (character : Char) (index : Fin 2048) :
    (char character).value ≠ (surrogate index).value := by
  have bound := index.isLt
  show character.val.toNat ≠ 0xD800 + index.val
  rcases character.valid with below | ⟨above, -⟩ <;> omega

theorem CodePoint.value_injective : Function.Injective CodePoint.value := by
  intro first second same
  cases first with
  | char first =>
    cases second with
    | char second => exact congrArg char (Char.ext (UInt32.toNat_inj.mp same))
    | surrogate index => exact absurd same (value_char_ne first index)
  | surrogate index =>
    cases second with
    | char second => exact absurd same.symm (value_char_ne second index)
    | surrogate other => exact congrArg surrogate (Fin.ext (Nat.add_left_cancel same))

namespace Text

theorem le_cons_iff {first second : CodePoint} {rest others : Text} :
    le (first :: rest) (second :: others) = true ↔
      first.value < second.value ∨ first = second ∧ rest.le others = true := by
  rw [le]
  split
  · rename_i before
    exact iff_of_true rfl (Or.inl before)
  · split
    · rename_i after
      refine iff_of_false Bool.false_ne_true (not_or.mpr ⟨by omega, ?_⟩)
      rintro ⟨rfl, -⟩
      omega
    · have same : first = second := CodePoint.value_injective (by omega)
      simp [same]

theorem le_total (first second : Text) : first.le second = true ∨ second.le first = true := by
  induction first generalizing second with
  | nil => exact Or.inl rfl
  | cons point rest inductionHypothesis =>
    cases second with
    | nil => exact Or.inr rfl
    | cons other others =>
      rw [le_cons_iff, le_cons_iff]
      rcases lt_trichotomy point.value other.value with before | same | after
      · exact Or.inl (Or.inl before)
      · obtain rfl := CodePoint.value_injective same
        exact (inductionHypothesis others).imp (fun le => Or.inr ⟨rfl, le⟩) fun le => Or.inr ⟨rfl, le⟩
      · exact Or.inr (Or.inl after)

theorem le_trans {first second third : Text} (before : first.le second = true)
    (after : second.le third = true) : first.le third = true := by
  induction first generalizing second third with
  | nil => rfl
  | cons point rest inductionHypothesis =>
    cases second with
    | nil => cases before
    | cons middle inner =>
      cases third with
      | nil => cases after
      | cons other others =>
        rw [le_cons_iff] at before after ⊢
        rcases before with before | ⟨rfl, before⟩
        · rcases after with after | ⟨rfl, after⟩
          · exact Or.inl (before.trans after)
          · exact Or.inl before
        · rcases after with after | ⟨rfl, after⟩
          · exact Or.inl after
          · exact Or.inr ⟨rfl, inductionHypothesis before after⟩

theorem le_antisymm {first second : Text} (before : first.le second = true)
    (after : second.le first = true) : first = second := by
  induction first generalizing second with
  | nil =>
    cases second with
    | nil => rfl
    | cons => cases after
  | cons point rest inductionHypothesis =>
    cases second with
    | nil => cases before
    | cons other others =>
      rw [le_cons_iff] at before after
      rcases before with before | ⟨rfl, before⟩
      · rcases after with after | ⟨rfl, -⟩ <;> omega
      · rcases after with after | ⟨-, after⟩
        · omega
        · rw [inductionHypothesis before after]

end Text

/-! ### Dictionaries -/

namespace Dict

variable {α : Type}

theorem perm_sorted (dict : Dict α) : dict.sorted.Perm dict := List.mergeSort_perm dict _

theorem nodup_keys_of_perm {first second : Dict α} (same : first.Perm second)
    (distinct : second.keys.Nodup) : first.keys.Nodup :=
  (same.map _).nodup_iff.mpr distinct

theorem pairwise_sorted (dict : Dict α) :
    dict.sorted.Pairwise fun first second => first.1.le second.1 = true := by
  refine List.pairwise_mergeSort ?_ ?_ dict
  · exact fun _ _ _ => Text.le_trans
  · exact fun first second => Bool.or_eq_true _ _ ▸ Text.le_total first.1 second.1

/-- The keys of a sorted dictionary ascend. -/
theorem ascending_keys_sorted {dict : Dict α} (distinct : dict.keys.Nodup) :
    dict.sorted.keys.Pairwise fun first second => second.le first = false := by
  have ordered : dict.sorted.keys.Pairwise fun first second => first.le second = true :=
    List.pairwise_map.mpr dict.pairwise_sorted
  have apart := nodup_keys_of_perm dict.perm_sorted distinct
  refine (ordered.and apart).imp fun ⟨before, different⟩ => ?_
  rw [← Bool.not_eq_true]
  exact fun after => different (Text.le_antisymm before after)

/-- Entries with distinct keys have one ascending order. -/
theorem sorted_eq_of_perm {first second : Dict α} (distinct : first.keys.Nodup)
    (same : first.Perm second) : first.sorted = second.sorted := by
  have perm : first.sorted.Perm second.sorted :=
    first.perm_sorted.trans (same.trans second.perm_sorted.symm)
  refine perm.eq_of_pairwise ?_ first.pairwise_sorted second.pairwise_sorted
  intro entry other member otherMember before after
  have found := get?_of_mem distinct ((mem_sorted_iff _ _).mp member)
  have given := same.mem_iff.mpr ((mem_sorted_iff _ _).mp otherMember)
  rw [Text.le_antisymm before after, get?_of_mem distinct given, Option.some_inj] at found
  exact Prod.ext (Text.le_antisymm before after) found.symm

end Dict

end ApiDoc
