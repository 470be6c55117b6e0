/-
This file bounds the numbers that are read. A numeral has at most so many digits, a double is far
smaller than a number of that many, and so no integer in a JSON value that was read is too long to
be read again.
-/
import ApiDoc.Json.Body
import ApiDoc.Proofs.Dictionary
import Mathlib.Algebra.Group.Nat.Defs
import Mathlib.Tactic.SplitIfs

namespace ApiDoc

/-! ### Integers -/

/-- The integer has no more digits than are read. -/
def Numeral.IsShort (value : Int) : Prop := value.natAbs < 10 ^ maximalDigits

theorem Numeral.natAbs_signed (negative : Bool) (magnitude : Nat) :
    (signed negative magnitude).natAbs = magnitude := by
  cases negative
  · exact Int.natAbs_natCast magnitude
  · exact (Int.natAbs_neg _).trans (Int.natAbs_natCast magnitude)

/-- A number has no more digits than it is written with. -/
theorem valueOfDigits_lt {digits : List Nat} (decimal : ∀ digit ∈ digits, digit < 10) :
    valueOfDigits digits < 10 ^ digits.length := by
  induction digits using List.reverseRecOn with
  | nil => exact Nat.one_pos
  | append_singleton digits last inductionHypothesis =>
    have small : last < 10 := decimal last (List.mem_append_right _ List.mem_cons_self)
    have before := inductionHypothesis fun digit member =>
      decimal digit (List.mem_append_left _ member)
    unfold valueOfDigits at before ⊢
    rw [List.foldl_append, List.length_append, List.length_singleton, Nat.pow_succ]
    show digits.foldl _ 0 * 10 + last < _
    omega

/-- Digits that are not too many denote a short integer. -/
theorem Numeral.isShort_signed {digits : List Nat} (decimal : ∀ digit ∈ digits, digit < 10)
    (few : digits.length ≤ maximalDigits) (negative : Bool) :
    IsShort (signed negative (valueOfDigits digits)) := by
  unfold IsShort
  rw [natAbs_signed]
  exact Nat.lt_of_lt_of_le (valueOfDigits_lt decimal) (Nat.pow_le_pow_right (by decide) few)

theorem CodePoint.digit?_lt {point : CodePoint} {digit : Nat} (shows : point.digit? = some digit) :
    digit < 10 := by
  unfold digit? at shows
  obtain ⟨first, found, difference⟩ := Option.map_eq_some_iff.mp shows
  have within := List.find?_some found
  simp only [Bool.and_eq_true, decide_eq_true_eq] at within
  omega

/-- What a list is read as part by part comes from its parts. -/
theorem exists_of_mem_mapM? {α β : Type} {read? : α → Option β} {list : List α} {parts : List β}
    (reads : list.mapM read? = some parts) :
    ∀ part ∈ parts, ∃ item ∈ list, read? item = some part := by
  induction list generalizing parts with
  | nil =>
    cases reads
    exact fun _ member => nomatch member
  | cons item rest inductionHypothesis =>
    rw [List.mapM_cons] at reads
    obtain ⟨first, readFirst, readsRest⟩ := Option.bind_eq_some_iff.mp reads
    obtain ⟨others, readOthers, same⟩ := Option.bind_eq_some_iff.mp readsRest
    cases same
    intro part member
    rcases List.mem_cons.mp member with rfl | later
    · exact ⟨item, List.mem_cons_self, readFirst⟩
    · obtain ⟨source, among, readPart⟩ := inductionHypothesis readOthers part later
      exact ⟨source, .tail _ among, readPart⟩

theorem Numeral.runDigits?_lt {run : Text} {digits : List Nat}
    (reads : runDigits? run = some digits) : ∀ digit ∈ digits, digit < 10 := by
  unfold runDigits? at reads
  obtain ⟨groups, readGroups, same⟩ := Option.bind_eq_some_iff.mp reads
  cases same
  intro digit member
  obtain ⟨group, among, within⟩ := List.mem_flatten.mp member
  obtain ⟨written, _, readGroup⟩ := exists_of_mem_mapM? readGroups group among
  split at readGroup
  · cases readGroup
  · obtain ⟨point, _, shows⟩ := exists_of_mem_mapM? readGroup digit within
    exact CodePoint.digit?_lt shows

/-- A numeral denotes a short integer. -/
theorem Numeral.isShort_read {text : Text} {value : Int} (reads : read text = .ok value) :
    IsShort value := by
  unfold read at reads
  dsimp only at reads
  split at reads
  · cases reads
  · rename_i digits found
    split_ifs at reads with many ends
    cases reads
    exact isShort_signed (runDigits?_lt found) (Nat.le_of_not_lt many) _

/-! ### Doubles -/

namespace Double

theorem roundQuotient_le {numerator denominator bound : Nat}
    (small : numerator < bound * denominator) : roundQuotient numerator denominator ≤ bound := by
  have quotient : numerator / denominator < bound :=
    Nat.div_lt_of_lt_mul (Nat.mul_comm bound denominator ▸ small)
  unfold roundQuotient
  dsimp only
  split <;> omega

/-- At an exponent that is not too small a fraction has few digits before the point. -/
theorem scaled_lt {numerator denominator : Nat} (positive : 0 < denominator) {exponent : Int}
    (large : (numerator.log2 : Int) - denominator.log2 - 53 ≤ exponent) :
    (scaled numerator denominator exponent).1 <
      2 ^ 54 * (scaled numerator denominator exponent).2 := by
  have above : numerator * 2 ^ (-exponent).toNat <
      2 ^ (numerator.log2 + 1 + (-exponent).toNat) := by
    rw [Nat.pow_add]
    exact Nat.mul_lt_mul_of_pos_right Nat.lt_log2_self (Nat.two_pow_pos _)
  have below : 2 ^ (denominator.log2 + exponent.toNat) ≤ denominator * 2 ^ exponent.toNat := by
    rw [Nat.pow_add]
    exact Nat.mul_le_mul_right _ (Nat.log2_self_le (Nat.ne_of_gt positive))
  calc numerator * 2 ^ (-exponent).toNat
      < 2 ^ (numerator.log2 + 1 + (-exponent).toNat) := above
    _ ≤ 2 ^ (54 + (denominator.log2 + exponent.toNat)) :=
        Nat.pow_le_pow_right (by decide) (by omega)
    _ = 2 ^ 54 * 2 ^ (denominator.log2 + exponent.toNat) := Nat.pow_add _ _ _
    _ ≤ 2 ^ 54 * (denominator * 2 ^ exponent.toNat) := Nat.mul_le_mul_left _ below

theorem le_exponentOf (numerator denominator : Nat) :
    (numerator.log2 : Int) - denominator.log2 - 53 ≤ exponentOf numerator denominator := by
  unfold exponentOf
  dsimp only
  split <;> omega

/-- The integer part of the double, if it has one, is short. -/
def IsShort (value : Double) : Prop := ∀ integer ∈ value.truncate?, Numeral.IsShort integer

/-- A double of few bits has a short integer part at every exponent that leaves room for it. -/
theorem isShort_finite_of_le {significand most : Nat} {exponent : Int} (few : significand ≤ 2 ^ 54)
    (small : exponent.toNat ≤ most) (room : 54 + most ≤ maximalDigits) (negative : Bool) :
    IsShort (.finite negative significand exponent) := by
  have magnitude : significand * 2 ^ exponent.toNat / 2 ^ (-exponent).toNat <
      10 ^ maximalDigits :=
    calc significand * 2 ^ exponent.toNat / 2 ^ (-exponent).toNat
        ≤ significand * 2 ^ exponent.toNat := Nat.div_le_self _ _
      _ ≤ 2 ^ 54 * 2 ^ most := Nat.mul_le_mul few (Nat.pow_le_pow_right (by decide) small)
      _ = 2 ^ (54 + most) := (Nat.pow_add 2 54 most).symm
      _ < 10 ^ (54 + most) := Nat.pow_lt_pow_left (by decide) (by omega)
      _ ≤ 10 ^ maximalDigits := Nat.pow_le_pow_right (by decide) room
  intro integer member
  obtain rfl : Numeral.signed negative _ = integer := Option.mem_some_iff.mp member
  unfold Numeral.IsShort
  rw [Numeral.natAbs_signed]
  exact magnitude

theorem isShort_finite {significand : Nat} {exponent : Int} (few : significand ≤ 2 ^ 54)
    (small : exponent ≤ greatestExponent) (negative : Bool) :
    IsShort (.finite negative significand exponent) := by
  have most : exponent.toNat ≤ 971 := by
    unfold greatestExponent at small
    omega
  exact isShort_finite_of_le few most (by decide) negative

theorem isShort_nearestFraction (negative : Bool) (numerator : Nat) {denominator : Nat}
    (positive : 0 < denominator) : IsShort (nearestFraction negative numerator denominator) := by
  have few := roundQuotient_le (scaled_lt positive (le_exponentOf numerator denominator))
  unfold nearestFraction
  split
  · exact isShort_finite (Nat.zero_le _) (by decide) negative
  · dsimp only
    split
    · dsimp only
      split
      · exact fun _ member => nomatch member
      · rename_i small
        exact isShort_finite (by decide) (Int.not_lt.mp small) negative
    · dsimp only
      split
      · exact fun _ member => nomatch member
      · rename_i small
        exact isShort_finite few (Int.not_lt.mp small) negative

theorem isShort_nearestDecimal (negative : Bool) (digits length : Nat) (power : Int) :
    IsShort (nearestDecimal negative digits length power) := by
  unfold nearestDecimal
  split
  · exact isShort_finite (Nat.zero_le _) (by decide) negative
  · split
    · exact fun _ member => nomatch member
    · split
      · exact isShort_finite (Nat.zero_le _) (by decide) negative
      · exact isShort_nearestFraction negative _ (Nat.pow_pos (by decide))

end Double

end ApiDoc
