/-
This file says which texts are numerals by a grammar: spaces, a sign or none, digits of any script with
single underscores between them or none, and spaces again. The reader takes exactly the numerals whose
digits are not too many, and it gives the integer that they denote.
-/
import ApiDoc.Number.Numeral
import ApiDoc.Proofs.Cutting
import Mathlib.Data.List.Induction
import Mathlib.Data.List.TakeWhile
import Mathlib.Tactic.SplitIfs

namespace ApiDoc.Numeral

/-! ### The grammar -/

/-- A row of digits, with their values. An underscore may stand between any two of them. -/
inductive IsRow : Text → List Nat → Prop where
  | single {point : CodePoint} {digit : Nat} (shows : point.digit? = some digit) :
    IsRow [point] [digit]
  | cons {point : CodePoint} {digit : Nat} {rest : Text} {digits : List Nat}
    (shows : point.digit? = some digit) (row : IsRow rest digits) :
    IsRow (point :: rest) (digit :: digits)
  | underscore {point : CodePoint} {digit : Nat} {rest : Text} {digits : List Nat}
    (shows : point.digit? = some digit) (row : IsRow rest digits) :
    IsRow (point :: .char '_' :: rest) (digit :: digits)

/-- What may stand before the digits, and whether it makes the integer negative. -/
inductive IsSign : Text → Bool → Prop where
  | none : IsSign [] false
  | plus : IsSign [.char '+'] false
  | minus : IsSign [.char '-'] true

/-- A numeral, with the integer that it denotes. -/
inductive Denotes : Text → Int → Prop where
  | intro {before sign row after : Text} {negative : Bool} {digits : List Nat}
    (spacesBefore : ∀ point ∈ before, isSpace point = true) (signs : IsSign sign negative)
    (isRow : IsRow row digits) (few : digits.length ≤ maximalDigits)
    (spacesAfter : ∀ point ∈ after, isSpace point = true) :
    Denotes (before ++ (sign ++ (row ++ after))) (signed negative (valueOfDigits digits))

/-! ### Classes of code points -/

theorem isBlank_of_isSpace {point : CodePoint} (space : isSpace point = true) :
    point.isBlank = true := by
  rw [isSpace, Bool.and_eq_true] at space
  exact space.1

theorem digit?_of_isBlank {point : CodePoint} (blank : point.isBlank = true) :
    point.digit? = none := by
  have apart : ∀ first ∈ digitZeros, ∀ range ∈ blankRanges,
      range.2 < first ∨ first + 9 < range.1 := by decide
  unfold CodePoint.isBlank CodeRanges.covers at blank
  rw [List.any_eq_true] at blank
  obtain ⟨range, among, within⟩ := blank
  rw [Bool.and_eq_true, decide_eq_true_iff, decide_eq_true_iff] at within
  unfold CodePoint.digit?
  rw [Option.map_eq_none_iff, List.find?_eq_none]
  intro first member
  rw [Bool.and_eq_true, decide_eq_true_iff, decide_eq_true_iff]
  have away := apart first member range among
  omega

theorem digit?_of_isSpace {point : CodePoint} (space : isSpace point = true) :
    point.digit? = none :=
  digit?_of_isBlank (isBlank_of_isSpace space)

theorem isSpace_of_digit? {point : CodePoint} {digit : Nat} (shows : point.digit? = some digit) :
    isSpace point = false := by
  rw [← Bool.not_eq_true]
  intro space
  rw [digit?_of_isSpace space] at shows
  cases shows

theorem isRunPoint_of_isSpace {point : CodePoint} (space : isSpace point = true) :
    isRunPoint point = false := by
  have other : point ≠ .char '_' := by
    rintro rfl
    exact absurd space (by decide)
  rw [isRunPoint, digit?_of_isSpace space, beq_eq_false_iff_ne.mpr other]
  rfl

/-- The code points that are no digits. -/
theorem ne_of_digit? {point other : CodePoint} {digit : Nat} (shows : point.digit? = some digit)
    (none : other.digit? = none) : point ≠ other := by
  rintro rfl
  rw [none] at shows
  cases shows

/-! ### Rows of digits -/

/-- The values of a group of digits, which has at least one. -/
def readGroup? (group : Text) : Option (List Nat) :=
  if group.isEmpty then none else group.mapM CodePoint.digit?

theorem runDigits?_eq (run : Text) :
    runDigits? run = ((run.splitAtMark (.char '_')).mapM readGroup?).map List.flatten := by
  rw [Option.map_eq_bind]
  rfl

theorem digit?_underscore : CodePoint.digit? (.char '_') = none := by decide

theorem readGroup?_singleton (point : CodePoint) : readGroup? [point] = point.digit?.map ([·]) := by
  unfold readGroup?
  rw [if_neg (by simp), List.mapM_cons, List.mapM_nil]
  cases point.digit? <;> rfl

theorem readGroup?_cons_cons (point second : CodePoint) (piece : Text) :
    readGroup? (point :: second :: piece) =
      point.digit?.bind fun digit => (readGroup? (second :: piece)).map (digit :: ·) := by
  unfold readGroup?
  rw [if_neg (by simp), if_neg (by simp), List.mapM_cons]
  cases point.digit? with
  | none => rfl
  | some digit => cases (second :: piece).mapM CodePoint.digit? <;> rfl

/-- A row that starts with an underscore is none. -/
theorem runDigits?_underscore (rest : Text) : runDigits? (.char '_' :: rest) = none := by
  rw [runDigits?_eq, Text.splitAtMark, if_pos rfl, List.mapM_cons]
  rfl

theorem runDigits?_singleton (point : CodePoint) : runDigits? [point] = point.digit?.map ([·]) := by
  by_cases marked : point = .char '_'
  · rw [marked, runDigits?_underscore, digit?_underscore]
    rfl
  · have whole : Text.splitAtMark (.char '_') [point] = [[point]] :=
      Text.splitAtMark_of_not_mem (by simpa using Ne.symm marked)
    rw [runDigits?_eq, whole, List.mapM_cons, List.mapM_nil, readGroup?_singleton]
    cases point.digit? <;> rfl

/-- A row that starts with a digit and an underscore is the digit and the row after the two. -/
theorem runDigits?_cons_underscore (point : CodePoint) (rest : Text) :
    runDigits? (point :: .char '_' :: rest) =
      point.digit?.bind fun digit => (runDigits? rest).map (digit :: ·) := by
  by_cases marked : point = .char '_'
  · rw [marked, runDigits?_underscore, digit?_underscore]
    rfl
  · have pieces : Text.splitAtMark (.char '_') (point :: .char '_' :: rest) =
        [point] :: Text.splitAtMark (.char '_') rest := by
      simp [Text.splitAtMark, marked]
    rw [runDigits?_eq, runDigits?_eq, pieces, List.mapM_cons, readGroup?_singleton]
    cases point.digit? with
    | none => rfl
    | some digit => cases (Text.splitAtMark (.char '_') rest).mapM readGroup? <;> rfl

/-- A row that goes on with another code point is its first digit and the row that is left. -/
theorem runDigits?_cons_cons (point : CodePoint) {second : CodePoint} (other : second ≠ .char '_')
    (rest : Text) :
    runDigits? (point :: second :: rest) =
      point.digit?.bind fun digit => (runDigits? (second :: rest)).map (digit :: ·) := by
  by_cases marked : point = .char '_'
  · rw [marked, runDigits?_underscore, digit?_underscore]
    rfl
  · obtain ⟨piece, pieces, cut⟩ : ∃ piece pieces,
        Text.splitAtMark (.char '_') (second :: rest) = (second :: piece) :: pieces := by
      rw [Text.splitAtMark, if_neg other]
      split <;> exact ⟨_, _, rfl⟩
    have longer : Text.splitAtMark (.char '_') (point :: second :: rest) =
        (point :: second :: piece) :: pieces := by
      rw [Text.splitAtMark, if_neg marked, cut]
    rw [runDigits?_eq, runDigits?_eq, longer, cut, List.mapM_cons, List.mapM_cons,
      readGroup?_cons_cons]
    cases point.digit? with
    | none => rfl
    | some digit =>
      cases readGroup? (second :: piece) with
      | none => rfl
      | some digits => cases pieces.mapM readGroup? <;> rfl

/-- The reader of rows reads what the grammar says. -/
theorem runDigits?_eq_some_iff {row : Text} {digits : List Nat} :
    runDigits? row = some digits ↔ IsRow row digits := by
  constructor
  · intro reads
    induction row using List.twoStepInduction generalizing digits with
    | nil => cases reads
    | singleton point =>
      rw [runDigits?_singleton, Option.map_eq_some_iff] at reads
      obtain ⟨digit, shows, rfl⟩ := reads
      exact .single shows
    | cons_cons point second rest readsLater readsNext =>
      by_cases marked : second = .char '_'
      · rw [marked, runDigits?_cons_underscore, Option.bind_eq_some_iff] at reads
        obtain ⟨digit, shows, read⟩ := reads
        obtain ⟨others, readsOthers, rfl⟩ := Option.map_eq_some_iff.mp read
        exact marked ▸ .underscore shows (readsLater readsOthers)
      · rw [runDigits?_cons_cons point marked, Option.bind_eq_some_iff] at reads
        obtain ⟨digit, shows, read⟩ := reads
        obtain ⟨others, readsOthers, rfl⟩ := Option.map_eq_some_iff.mp read
        exact .cons shows (readsNext second readsOthers)
  · intro isRow
    induction isRow with
    | single shows => rw [runDigits?_singleton, shows, Option.map_some]
    | @cons point digit rest digits shows row inductionHypothesis =>
      cases rest with
      | nil => cases row
      | cons second others =>
        have other : second ≠ .char '_' := by
          cases row with
          | single shows | cons shows row | underscore shows row =>
            exact ne_of_digit? shows digit?_underscore
        rw [runDigits?_cons_cons point other, shows, inductionHypothesis]
        rfl
    | underscore shows row inductionHypothesis =>
      rw [runDigits?_cons_underscore, shows, inductionHypothesis]
      rfl

/-! ### Numerals -/

/-- A text is the sign that is taken from it and what is left. -/
theorem exists_sign (text : Text) :
    ∃ sign, IsSign sign (takeSign text).1 ∧ sign ++ (takeSign text).2 = text := by
  unfold takeSign
  split
  · exact ⟨_, .minus, rfl⟩
  · exact ⟨_, .plus, rfl⟩
  · exact ⟨_, .none, rfl⟩

theorem denotes_of_read {text : Text} {value : Int} (reads : read text = .ok value) :
    Denotes text value := by
  obtain ⟨sign, signs, whole⟩ := exists_sign (skipSpaces text)
  unfold read at reads
  generalize takeSign (skipSpaces text) = taken at reads signs whole
  obtain ⟨negative, body⟩ := taken
  dsimp only at reads signs whole
  split at reads
  · cases reads
  · rename_i digits found
    split_ifs at reads with many ends
    cases reads
    rw [List.isEmpty_iff, skipSpaces, List.dropWhile_eq_nil_iff] at ends
    have denotes := Denotes.intro (fun _ => List.mem_takeWhile_imp (p := isSpace) (l := text)) signs
      (runDigits?_eq_some_iff.mp found) (Nat.le_of_not_lt many) ends
    rwa [List.takeWhile_append_dropWhile, whole, skipSpaces, List.takeWhile_append_dropWhile]
      at denotes

namespace IsRow

variable {row : Text} {digits : List Nat} (isRow : IsRow row digits)

include isRow

theorem exists_cons : ∃ point digit rest, point.digit? = some digit ∧ row = point :: rest := by
  cases isRow with
  | single shows | cons shows row | underscore shows row => exact ⟨_, _, _, shows, rfl⟩

theorem isRunPoint_of_mem : ∀ point ∈ row, isRunPoint point = true := by
  have digital {point : CodePoint} {digit : Nat} (shows : point.digit? = some digit) :
      isRunPoint point = true := by
    rw [isRunPoint, shows]
    rfl
  induction isRow with
  | single shows => exact List.forall_mem_singleton.mpr (digital shows)
  | cons shows row inductionHypothesis =>
    exact List.forall_mem_cons.mpr ⟨digital shows, inductionHypothesis⟩
  | underscore shows row inductionHypothesis =>
    have underscore : isRunPoint (.char '_') = true := by decide
    exact List.forall_mem_cons.mpr
      ⟨digital shows, List.forall_mem_cons.mpr ⟨underscore, inductionHypothesis⟩⟩

end IsRow

theorem takeWhile_of_spaces {after : Text} (spaces : ∀ point ∈ after, isSpace point = true) :
    after.takeWhile isRunPoint = [] ∧ after.dropWhile isRunPoint = after := by
  cases after with
  | nil => exact ⟨rfl, rfl⟩
  | cons point rest =>
    have other := isRunPoint_of_isSpace (spaces point List.mem_cons_self)
    rw [← Bool.not_eq_true] at other
    exact ⟨List.takeWhile_cons_of_neg other, List.dropWhile_cons_of_neg other⟩

theorem read_of_denotes {text : Text} {value : Int} (denotes : Denotes text value) :
    read text = .ok value := by
  cases denotes with
  | @intro before sign row after negative digits spacesBefore signs isRow few spacesAfter =>
    obtain ⟨point, digit, rest, shows, rfl⟩ := isRow.exists_cons
    have unspaced : skipSpaces (before ++ (sign ++ (point :: rest ++ after))) =
        sign ++ (point :: rest ++ after) := by
      rw [skipSpaces, List.dropWhile_append_of_pos spacesBefore]
      cases signs with
      | none => exact List.dropWhile_cons_of_neg (by simp [isSpace_of_digit? shows])
      | plus => exact List.dropWhile_cons_of_neg (by decide)
      | minus => exact List.dropWhile_cons_of_neg (by decide)
    have taken : takeSign (sign ++ (point :: rest ++ after)) =
        (negative, point :: rest ++ after) := by
      cases signs with
      | none =>
        have notMinus := @ne_of_digit? _ (.char '-') _ shows (by decide)
        have notPlus := @ne_of_digit? _ (.char '+') _ shows (by decide)
        unfold takeSign
        simp [notMinus, notPlus]
      | plus => rfl
      | minus => rfl
    obtain ⟨noRun, allRest⟩ := takeWhile_of_spaces spacesAfter
    have run : (point :: rest ++ after).takeWhile isRunPoint = point :: rest := by
      rw [List.takeWhile_append_of_pos isRow.isRunPoint_of_mem, noRun, List.append_nil]
    have left : (point :: rest ++ after).dropWhile isRunPoint = after := by
      rw [List.dropWhile_append_of_pos isRow.isRunPoint_of_mem, allRest]
    have ends : (skipSpaces after).isEmpty = true := by
      rw [List.isEmpty_iff, skipSpaces, List.dropWhile_eq_nil_iff]
      exact spacesAfter
    unfold read
    rw [unspaced, taken]
    dsimp only
    rw [run, runDigits?_eq_some_iff.mpr isRow, left]
    dsimp only
    rw [if_neg (Nat.not_lt.mpr few), if_pos ends]

/-- Reading takes the numerals, and gives what they denote. -/
theorem read_eq_ok_iff {text : Text} {value : Int} : read text = .ok value ↔ Denotes text value :=
  ⟨denotes_of_read, read_of_denotes⟩

end ApiDoc.Numeral
