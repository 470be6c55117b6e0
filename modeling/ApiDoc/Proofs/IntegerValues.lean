/-
This file proves that the integers of attributes are read exactly. A trimmed text neither begins nor
ends with a blank, so a numeral in it is no more than a sign, or none, and a row of digits; the
digits count by their places; and an integer that is written out is read as itself, whatever blanks
stand around it.
-/
import ApiDoc.Proofs.AttributeOrder
import ApiDoc.Proofs.JsonTokens
import Mathlib.Data.List.DropRight
import Mathlib.Data.Nat.Digits.Defs

namespace ApiDoc

/-! ### Trimmed texts -/

namespace Text

variable {text rest before after : Text} {point : CodePoint}

theorem trimBlanks_eq_rdropWhile (text : Text) :
    text.trimBlanks =
      (text.dropWhile CodePoint.isBlank).rdropWhile CodePoint.isBlank := rfl

theorem isBlank_of_trimBlanks_eq_cons (trimmed : text.trimBlanks = point :: rest) :
    point.isBlank = false := by
  obtain ⟨dropped, whole⟩ : point :: rest <+: text.dropWhile CodePoint.isBlank :=
    trimmed ▸ List.rdropWhile_prefix _ _
  have first := List.head?_dropWhile_not CodePoint.isBlank text
  rw [← whole] at first
  exact first

theorem isBlank_of_trimBlanks_eq_concat (trimmed : text.trimBlanks = rest ++ [point]) :
    point.isBlank = false := by
  rw [trimBlanks_eq_rdropWhile] at trimmed
  have last := List.rdropWhile_last_not CodePoint.isBlank (text.dropWhile CodePoint.isBlank)
    (trimmed ▸ List.concat_ne_nil point rest)
  simpa [trimmed] using last

/-- No blanks begin a trimmed text. -/
theorem eq_nil_of_trimBlanks_eq_append (trimmed : text.trimBlanks = before ++ rest)
    (blank : ∀ point ∈ before, point.isBlank = true) : before = [] := by
  cases before with
  | nil => rfl
  | cons first others =>
    have inside := isBlank_of_trimBlanks_eq_cons trimmed
    rw [blank first List.mem_cons_self] at inside
    cases inside

/-- No blanks end a trimmed text. -/
theorem eq_nil_of_trimBlanks_eq_append_right (trimmed : text.trimBlanks = rest ++ after)
    (blank : ∀ point ∈ after, point.isBlank = true) : after = [] := by
  rcases List.eq_nil_or_concat' after with rfl | ⟨others, last, rfl⟩
  · rfl
  · rw [← List.append_assoc] at trimmed
    have inside := isBlank_of_trimBlanks_eq_concat trimmed
    rw [blank last (List.mem_append_right _ List.mem_cons_self)] at inside
    cases inside

theorem dropWhile_isBlank_eq_self (inside : ∀ point ∈ text, point.isBlank = false) :
    text.dropWhile CodePoint.isBlank = text := by
  cases text with
  | nil => rfl
  | cons first rest =>
    exact List.dropWhile_cons_of_neg (by simp [inside first List.mem_cons_self])

/-- What remains of blanks around a text without blanks is the text. -/
theorem trimBlanks_append_append (blankBefore : ∀ point ∈ before, point.isBlank = true)
    (blankAfter : ∀ point ∈ after, point.isBlank = true)
    (inside : ∀ point ∈ text, point.isBlank = false) :
    (before ++ (text ++ after)).trimBlanks = text := by
  have blankReverse : ∀ point ∈ after.reverse, point.isBlank = true := fun point member =>
    blankAfter point (List.mem_reverse.mp member)
  have ended : (text ++ after).trimEnd = text := by
    rw [trimEnd, List.reverse_append, List.dropWhile_append_of_pos blankReverse,
      dropWhile_isBlank_eq_self fun point member => inside point (List.mem_reverse.mp member),
      List.reverse_reverse]
  rw [trimBlanks, trimStart, List.dropWhile_append_of_pos blankBefore]
  cases text with
  | nil => rw [List.nil_append, List.dropWhile_eq_nil_iff.mpr blankAfter]; rfl
  | cons first rest =>
    have starts : ¬ first.isBlank = true := by simp [inside first List.mem_cons_self]
    rwa [List.cons_append, List.dropWhile_cons_of_neg starts]

end Text

namespace Numeral

/-! ### Digits by their places -/

/-- The last digit counts once, and each one ten times as much as the next. -/
theorem valueOfDigits_eq_ofDigits (digits : List Nat) :
    valueOfDigits digits = Nat.ofDigits 10 digits.reverse := by
  rw [Nat.ofDigits_eq_foldr, List.foldr_reverse, valueOfDigits]
  congr 1
  funext value digit
  rw [Nat.cast_id]
  omega

/-! ### Trimmed numerals -/

/-- A text without blanks around it is a numeral exactly if it is a sign, or none, and digits. -/
theorem read_trimBlanks_eq_ok_iff {text : Text} {value : Int} :
    read text.trimBlanks = .ok value ↔
      ∃ sign negative row digits, text.trimBlanks = sign ++ row ∧ IsSign sign negative ∧
        IsRow row digits ∧ digits.length ≤ maximalDigits ∧
        value = signed negative (valueOfDigits digits) := by
  rw [read_eq_ok_iff]
  have blank {spaces : Text} (spaced : ∀ point ∈ spaces, isSpace point = true) :
      ∀ point ∈ spaces, point.isBlank = true := fun point member =>
    isBlank_of_isSpace (spaced point member)
  constructor
  · intro denotes
    generalize trimmed : text.trimBlanks = whole at denotes
    cases denotes with
    | @intro before sign row after negative digits spacesBefore signs isRow few spacesAfter =>
      obtain rfl := Text.eq_nil_of_trimBlanks_eq_append trimmed (blank spacesBefore)
      rw [List.nil_append, ← List.append_assoc] at trimmed
      obtain rfl := Text.eq_nil_of_trimBlanks_eq_append_right trimmed (blank spacesAfter)
      exact ⟨sign, negative, row, digits, by simp, signs, isRow, few, rfl⟩
  · rintro ⟨sign, negative, row, digits, trimmed, signs, isRow, few, rfl⟩
    have denotes := Denotes.intro (List.forall_mem_nil _) signs isRow few (List.forall_mem_nil _)
    rwa [List.nil_append, List.append_nil, ← trimmed] at denotes

/-! ### Integers that are written out -/

theorem digit?_of_isDigit {character : Char} (digit : character.isDigit = true) :
    (CodePoint.char character).digit? = some (character.toNat - 48) := by
  obtain ⟨low, high⟩ : 0x30 ≤ character.toNat ∧ character.toNat ≤ 0x39 :=
    Char.isDigit_iff_toNat.mp digit
  have zeros : digitZeros = 0x30 :: digitZeros.tail := rfl
  unfold CodePoint.digit?
  rw [zeros, List.find?_cons_of_pos]
  · rfl
  · rw [CodePoint.value, decide_eq_true low, decide_eq_true (by omega), Bool.true_and]

theorem isRow_map_char {characters : List Char} (nonempty : characters ≠ [])
    (digits : ∀ character ∈ characters, character.isDigit = true) :
    IsRow (characters.map .char) (characters.map (·.toNat - 48)) := by
  induction characters with
  | nil => exact absurd rfl nonempty
  | cons first rest inductionHypothesis =>
    obtain ⟨digitFirst, digitsRest⟩ := List.forall_mem_cons.mp digits
    cases rest with
    | nil => exact .single (digit?_of_isDigit digitFirst)
    | cons second others =>
      exact .cons (digit?_of_isDigit digitFirst)
        (inductionHypothesis (List.cons_ne_nil second others) digitsRest)

/-- An integer is written as its sign, if it is negative, and its digits. -/
theorem exists_row_ofInt (value : Int) :
    ∃ sign row, Text.ofInt value = sign ++ row ∧ IsSign sign (value < 0) ∧
      IsRow row (Json.Token.digitsOf value.natAbs) := by
  have isRow (number : Nat) : IsRow (Text.ofNat number) (Json.Token.digitsOf number) :=
    isRow_map_char Nat.toDigits_ne_nil fun _ => Json.Token.isDigit_of_mem
  cases value with
  | ofNat number => exact ⟨[], Text.ofNat number, rfl, .none, isRow number⟩
  | negSucc number =>
    rw [decide_eq_true (Int.negSucc_lt_zero number)]
    exact ⟨[.char '-'], Text.ofNat (number + 1), rfl, .minus, isRow (number + 1)⟩

theorem isBlank_of_mem_ofInt {value : Int} {point : CodePoint} (member : point ∈ Text.ofInt value) :
    point.isBlank = false := by
  rcases Json.Token.ofInt_points value member with rfl | ⟨character, digit, rfl⟩
  · decide
  · rw [← Bool.not_eq_true]
    intro blank
    cases (digit?_of_isDigit digit).symm.trans (digit?_of_isBlank blank)

end Numeral

namespace Column

open Numeral (IsSign IsRow signed)

/-- A value that is no integer is reported with its attribute and its column. -/
theorem readInteger_eq_error {column key value : Text}
    (unread : ∀ integer, readInteger column key value ≠ .ok integer) :
    readInteger column key value = .error (.malformed (.integer column key value)) := by
  unfold readInteger at unread ⊢
  split
  · rename_i integer read
    rw [read] at unread
    exact absurd rfl (unread integer)
  · rfl

/-- An integer is read from a value exactly if the value, trimmed, is a sign or none and a row of
one to so many digits of any script, with single underscores between digits or none; it is then what
the digits come to by their places. Any other value is reported as malformed. So an integer that is
written out, with any blanks around it, is read as itself. -/
theorem readInteger_exact (column key : Text) :
    (∀ value integer, readInteger column key value = .ok integer ↔
      ∃ sign negative row digits, value.trimBlanks = sign ++ row ∧ IsSign sign negative ∧
        IsRow row digits ∧ digits.length ≤ 4300 ∧
        integer = signed negative (Nat.ofDigits 10 digits.reverse)) ∧
    (∀ value, (∀ integer, readInteger column key value ≠ .ok integer) →
      readInteger column key value = .error (.malformed (.integer column key value))) ∧
    ∀ integer before after, (Nat.toDigits 10 integer.natAbs).length ≤ 4300 →
      (∀ point ∈ before, point.isBlank = true) → (∀ point ∈ after, point.isBlank = true) →
      readInteger column key (before ++ (Text.ofInt integer ++ after)) = .ok integer := by
  have reads (value : Text) (integer : Int) : readInteger column key value = .ok integer ↔
      ∃ sign negative row digits, value.trimBlanks = sign ++ row ∧ IsSign sign negative ∧
        IsRow row digits ∧ digits.length ≤ 4300 ∧
        integer = signed negative (Nat.ofDigits 10 digits.reverse) := by
    simp only [readInteger_eq_ok_iff, Numeral.read_trimBlanks_eq_ok_iff,
      Numeral.valueOfDigits_eq_ofDigits]
    rfl
  refine ⟨reads, fun value unread => readInteger_eq_error unread, ?_⟩
  intro integer before after few blankBefore blankAfter
  have inside : ∀ point ∈ Text.ofInt integer, point.isBlank = false := fun _ =>
    Numeral.isBlank_of_mem_ofInt
  have trimmed := Text.trimBlanks_append_append blankBefore blankAfter inside
  obtain ⟨sign, row, written, signs, isRow⟩ := Numeral.exists_row_ofInt integer
  refine (reads _ integer).mpr ⟨sign, _, row, _, trimmed.trans written, signs, isRow, ?_, ?_⟩
  · rwa [Json.Token.digitsOf, List.length_map]
  · rw [← Numeral.valueOfDigits_eq_ofDigits, Json.Token.signed_digitsOf]

/-- A negative integer is read between blanks of two kinds, and so is one with a digit of another
script behind an underscore. -/
theorem readInteger_exact_beds :
    let before : Text := "\t\u3000"
    let after : Text := " "
    (Nat.toDigits 10 (-40 : Int).natAbs).length ≤ 4300 ∧
      (∀ point ∈ before, point.isBlank = true) ∧ (∀ point ∈ after, point.isBlank = true) ∧
      readInteger "Beds" "size" (before ++ (Text.ofInt (-40) ++ after)) = .ok (-40) ∧
      readInteger "Beds" "size" " +1_\u0660" = .ok 10 := by
  intro before after
  have few : (Nat.toDigits 10 (-40 : Int).natAbs).length ≤ 4300 := by decide
  have blankBefore : ∀ point ∈ before, point.isBlank = true := by decide
  have blankAfter : ∀ point ∈ after, point.isBlank = true := by decide
  obtain ⟨reads, -, written⟩ := readInteger_exact "Beds" "size"
  refine ⟨few, blankBefore, blankAfter, written (-40) before after few blankBefore blankAfter, ?_⟩
  exact (reads " +1_\u0660" 10).mpr ⟨[.char '+'], false, [.char '1', .char '_', .char '\u0660'],
    [1, 0], by decide, .plus, .underscore rfl (.single rfl), by decide, rfl⟩

end Column

end ApiDoc
