/-
This file says which texts become a word of plain letters in lower case: those that differ from it by
capitals of the ASCII script alone. The capitals of other scripts have small letters of their own, but
for the sign of the kelvin, whose small letter is the `k`.
-/
import ApiDoc.Text.Lowercase

namespace ApiDoc

/-! ### Letters -/

/-- The small letters of the ASCII script but for the `k`. -/
def isPlainLetter (letter : Char) : Bool := 'a' ≤ letter && letter ≤ 'z' && letter != 'k'

theorem toNat_of_isPlainLetter {letter : Char} (plain : isPlainLetter letter = true) :
    0x61 ≤ letter.toNat ∧ letter.toNat < 0x80 ∧ letter.toNat ≠ 0x6B := by
  unfold isPlainLetter at plain
  rw [Bool.and_eq_true, Bool.and_eq_true, decide_eq_true_iff, decide_eq_true_iff, bne_iff_ne] at plain
  obtain ⟨⟨low, high⟩, other⟩ := plain
  have most : letter.toNat ≤ 0x7A := high
  refine ⟨low, by omega, fun same => other ?_⟩
  exact Char.ext (UInt32.toNat_inj.mp same)

/-- Both ways of lowering a letter agree on ASCII, where only the first run of capitals lies. -/
theorem CodePoint.toLower_of_ascii {character : Char} (ascii : character.toNat < 0x80) :
    CodePoint.toLower (.char character) = .char character.toLower := by
  have parts : lowercaseRuns = [(0x41, 0x5A, 1, 0x61)] ++ lowercaseRuns.tail := rfl
  have beyond : ∀ run ∈ lowercaseRuns.tail, 0x80 ≤ run.1 := by decide +kernel
  have passed : (lowercaseRuns.tail.find? fun run => run.1 ≤ character.toNat &&
      character.toNat ≤ run.2.1 && (character.toNat - run.1) % run.2.2.1 == 0) = none := by
    refine List.find?_eq_none.mpr fun run member => ?_
    have away := beyond run member
    simp only [Bool.and_eq_true, decide_eq_true_iff]
    omega
  have all : ∀ value < 0x80,
      ([(0x41, 0x5A, 1, 0x61)].find? fun run => run.1 ≤ value && value ≤ run.2.1 &&
        (value - run.1) % run.2.2.1 == 0).elim (CodePoint.char (Char.ofNat value))
          (fun run => .char (Char.ofNat (run.2.2.2 + (value - run.1)))) =
        .char (Char.ofNat value).toLower := by decide +kernel
  have same := all character.toNat ascii
  rw [Char.ofNat_toNat] at same
  have lowered : CodePoint.toLower (.char character) =
      (lowercaseRuns.find? fun run => run.1 ≤ character.toNat && character.toNat ≤ run.2.1 &&
        (character.toNat - run.1) % run.2.2.1 == 0).elim (.char character)
          fun run => .char (Char.ofNat (run.2.2.2 + (character.toNat - run.1))) := by
    unfold CodePoint.toLower
    dsimp only
    cases lowercaseRuns.find? _ <;> rfl
  rw [lowered, parts, List.find?_append, passed, Option.or_none]
  exact same

theorem toNat_ofNat (value : Nat) :
    (Char.ofNat value).toNat = value ∨ (Char.ofNat value).toNat = 0 := by
  unfold Char.ofNat
  by_cases valid : value.isValidChar
  · rw [dif_pos valid]
    exact Or.inl rfl
  · rw [dif_neg valid]
    exact Or.inr rfl

/-- What is not ASCII has no plain letter as its small letter. -/
theorem CodePoint.toLower_ne_of_not_ascii {character letter : Char}
    (other : ¬ character.toNat < 0x80) (plain : isPlainLetter letter = true) :
    CodePoint.toLower (.char character) ≠ .char letter := by
  have beyond : ∀ run ∈ lowercaseRuns, run.2.1 < 0x80 ∨ 0x80 ≤ run.2.2.2 ∨
      run.2.2.2 = 0x6B ∧ run.1 = run.2.1 := by decide +kernel
  obtain ⟨low, high, notKelvin⟩ := toNat_of_isPlainLetter plain
  intro same
  unfold CodePoint.toLower at same
  dsimp only at same
  split at same
  · rename_i first last step small found
    have within := List.find?_some found
    have apart := beyond _ (List.mem_of_find?_eq_some found)
    dsimp only at apart
    simp only [Bool.and_eq_true, decide_eq_true_iff] at within
    have lowered := congrArg Char.toNat (CodePoint.char.inj same)
    rcases toNat_ofNat (small + (character.toNat - first)) with value | value <;> omega
  · have lowered := congrArg Char.toNat (CodePoint.char.inj same)
    omega

namespace Text

/-- What is not ASCII is no plain letter, and lowering ASCII capitals does not change that. -/
theorem asciiLowercase_ne_of_not_ascii {character letter : Char} (other : ¬ character.toNat < 0x80)
    (plain : isPlainLetter letter = true) :
    asciiLowercase [.char character] ≠ [.char letter] := by
  have small : character.toLower = character := by
    refine dif_neg fun capital => other ?_
    have most : character.toNat ≤ 0x5A := capital.2
    omega
  show [CodePoint.char character.toLower] ≠ _
  rw [small]
  intro same
  have bound := (toNat_of_isPlainLetter plain).2.1
  rw [← CodePoint.char.inj (List.singleton_inj.mp same)] at bound
  exact other bound

theorem toLower_eq_iff {letter : Char} (plain : isPlainLetter letter = true) (point : CodePoint) :
    point.toLower = .char letter ↔ asciiLowercase [point] = [.char letter] := by
  cases point with
  | surrogate index => exact iff_of_false nofun nofun
  | char character =>
    by_cases ascii : character.toNat < 0x80
    · rw [CodePoint.toLower_of_ascii ascii]
      exact List.singleton_inj.symm
    · exact iff_of_false (CodePoint.toLower_ne_of_not_ascii ascii plain)
        (asciiLowercase_ne_of_not_ascii ascii plain)

/-- The two capitals that are not lowered letter by letter give no plain letter alone. -/
theorem lowerAfter_eq_iff {letters : List Char}
    (plain : ∀ letter ∈ letters, isPlainLetter letter = true) (before text : Text) :
    lowerAfter before text = letters.map .char ↔ text.asciiLowercase = letters.map .char := by
  induction text generalizing before letters with
  | nil => exact Iff.rfl
  | cons point rest inductionHypothesis =>
    cases letters with
    | nil =>
      refine iff_of_false (fun same => ?_) nofun
      rw [lowerAfter] at same
      split at same
      · cases same
      · split at same <;> cases same
    | cons letter others =>
      obtain ⟨isPlain, plainOthers⟩ := List.forall_mem_cons.mp plain
      have ascii : asciiLowercase (point :: rest) = .char letter :: others.map .char ↔
          asciiLowercase [point] = [.char letter] ∧ asciiLowercase rest = others.map .char := by
        unfold asciiLowercase
        rw [List.map_cons, List.map_singleton, List.cons.injEq, List.singleton_inj]
      rw [List.map_cons, ascii, lowerAfter]
      split
      · rename_i dotted
        subst dotted
        refine iff_of_false (fun same => ?_) fun same => ?_
        · have accent : CodePoint.char '\u0307' ∈ others.map .char :=
            (List.cons.inj same).2 ▸ List.mem_cons_self
          obtain ⟨other, among, accented⟩ := List.mem_map.mp accent
          have isPlainOther := plainOthers other among
          rw [CodePoint.char.inj accented] at isPlainOther
          exact absurd isPlainOther (by decide)
        · exact asciiLowercase_ne_of_not_ascii (by decide) isPlain same.1
      · split
        · rename_i sigma
          subst sigma
          refine iff_of_false (fun same => ?_) fun same => ?_
          · have letters := CodePoint.char.inj (List.cons.inj same).1
            rw [← letters] at isPlain
            split at isPlain <;> exact absurd isPlain (by decide)
          · exact asciiLowercase_ne_of_not_ascii (by decide) isPlain same.1
        · rw [List.singleton_append, List.cons.injEq, toLower_eq_iff isPlain,
            inductionHypothesis plainOthers]

/-- A text becomes a word of plain letters in lower case exactly if it does so by the lowering of ASCII
capitals alone. -/
theorem lowercase_eq_iff {word : String} (plain : word.toList.all isPlainLetter = true) (text : Text) :
    text.lowercase = word ↔ text.asciiLowercase = word :=
  lowerAfter_eq_iff (List.all_eq_true.mp plain) [] text

end Text

end ApiDoc
