/-
This file proves that a layout which asks for nothing beyond ASCII gets nothing else, whatever the
value is.
-/
import ApiDoc.Json.Printer
import ApiDoc.Proofs.JsonTokens
import Mathlib.Tactic.SplitIfs

namespace ApiDoc

/-! ### Texts -/

namespace Text

theorem isAscii_iff (text : Text) : text.isAscii = true ↔ ∀ point ∈ text, point.isAscii = true :=
  List.all_eq_true

theorem isAscii_append {first second : Text} (ascii : first.isAscii = true)
    (asciiSecond : second.isAscii = true) : (first ++ second).isAscii = true := by
  unfold isAscii at *
  rw [List.all_append, ascii, asciiSecond]
  rfl

theorem isAscii_cons {point : CodePoint} {rest : Text} (ascii : point.isAscii = true)
    (asciiRest : rest.isAscii = true) : isAscii (point :: rest) = true := by
  unfold isAscii at *
  rw [List.all_cons, ascii, asciiRest]
  rfl

theorem isAscii_ofPieces {pieces : List Text} (ascii : ∀ piece ∈ pieces, piece.isAscii = true) :
    (ofPieces pieces).isAscii = true := by
  rw [isAscii_iff]
  intro point member
  obtain ⟨piece, among, within⟩ := List.mem_flatten.mp member
  exact (isAscii_iff piece).mp (ascii piece among) point within

theorem isAscii_subset {text part : Text} (ascii : text.isAscii = true)
    (subset : ∀ point ∈ part, point ∈ text) : part.isAscii = true :=
  (isAscii_iff part).mpr fun point member => (isAscii_iff text).mp ascii point (subset point member)

theorem isAscii_join {separator : Text} (ascii : separator.isAscii = true) {pieces : List Text}
    (asciiPieces : ∀ piece ∈ pieces, piece.isAscii = true) :
    (join separator pieces).isAscii = true := by
  induction pieces with
  | nil => rfl
  | cons first rest inductionHypothesis =>
    have asciiFirst := asciiPieces first List.mem_cons_self
    have asciiRest := inductionHypothesis fun piece member => asciiPieces piece (.tail _ member)
    cases rest with
    | nil => exact asciiFirst
    | cons second others => exact isAscii_append (isAscii_append asciiFirst ascii) asciiRest

theorem isAscii_replicate (count : Nat) {point : CodePoint} (ascii : point.isAscii = true) :
    isAscii (List.replicate count point) = true :=
  (isAscii_iff _).mpr fun _ member => (List.mem_replicate.mp member).2 ▸ ascii

theorem isAscii_ofNat (number : Nat) : (ofNat number).isAscii = true := by
  rw [isAscii_iff]
  intro point member
  obtain ⟨character, among, rfl⟩ := List.mem_map.mp member
  have digit := Json.Token.isDigit_of_mem among
  unfold Char.isDigit at digit
  rw [Bool.and_eq_true, decide_eq_true_iff, decide_eq_true_iff] at digit
  have most : character.toNat ≤ '9'.toNat := digit.2
  have small : character.toNat < 0x80 := Nat.lt_of_le_of_lt most (by decide)
  exact decide_eq_true small

theorem isAscii_ofInt (value : Int) : (ofInt value).isAscii = true := by
  cases value with
  | ofNat number => exact isAscii_ofNat number
  | negSucc number => exact isAscii_cons rfl (isAscii_ofNat (number + 1))

end Text

theorem Hex.isAscii_digits (count value : Nat) : (Hex.digits count value).isAscii = true := by
  have digit : ∀ value < 0x10, (Hex.digit value).isAscii = true := by decide
  induction count generalizing value with
  | zero => rfl
  | succ count inductionHypothesis =>
    exact Text.isAscii_append (inductionHypothesis _)
      (Text.isAscii_cons (digit _ (Nat.mod_lt _ (by decide))) rfl)

/-! ### Doubles -/

namespace Double

theorem isAscii_writeDecimal (negative : Bool) (digits : Nat) (power : Int) :
    (writeDecimal negative digits power).isAscii = true := by
  have sign : (if negative then "-" else "" : Text).isAscii = true := by cases negative <;> rfl
  have written := Text.isAscii_ofNat digits
  have taken (count : Nat) : Text.isAscii ((Text.ofNat digits).take count) = true :=
    Text.isAscii_subset written fun _ => List.mem_of_mem_take
  have dropped (count : Nat) : Text.isAscii ((Text.ofNat digits).drop count) = true :=
    Text.isAscii_subset written fun _ => List.mem_of_mem_drop
  have zeros (count : Nat) : Text.isAscii (List.replicate count (.char '0')) = true :=
    Text.isAscii_replicate count rfl
  unfold writeDecimal
  dsimp only
  split
  · have fraction : Text.isAscii (if ((Text.ofNat digits).drop 1).isEmpty then []
        else .char '.' :: (Text.ofNat digits).drop 1) = true := by
      split
      · rfl
      · exact Text.isAscii_cons rfl (dropped 1)
    have mark (leading : Int) : Text.isAscii (if leading < 0 then "-" else "+" : Text) = true := by
      split <;> rfl
    have padded (size : Nat) : Text.isAscii (if (Text.ofNat size).length < 2 then
        .char '0' :: Text.ofNat size else Text.ofNat size) = true := by
      split
      · exact Text.isAscii_cons rfl (Text.isAscii_ofNat size)
      · exact Text.isAscii_ofNat size
    refine Text.isAscii_ofPieces ?_
    simp only [List.forall_mem_cons]
    exact ⟨sign, taken 1, fraction, rfl, mark _, padded _, nofun⟩
  · split
    · refine Text.isAscii_ofPieces ?_
      simp only [List.forall_mem_cons]
      exact ⟨sign, written, zeros _, rfl, nofun⟩
    · split
      · refine Text.isAscii_ofPieces ?_
        simp only [List.forall_mem_cons]
        exact ⟨sign, rfl, zeros _, written, nofun⟩
      · refine Text.isAscii_ofPieces ?_
        simp only [List.forall_mem_cons]
        exact ⟨sign, taken _, rfl, dropped _, nofun⟩

theorem isAscii_write (value : Double) : value.write.isAscii = true := by
  cases value with
  | nan => rfl
  | infinity negative => cases negative <;> rfl
  | finite negative significand exponent =>
    rw [write]
    split
    · cases negative <;> rfl
    · exact isAscii_writeDecimal negative _ _

end Double

/-! ### Values -/

namespace Json

theorem isAscii_escapeByNumber (value : Nat) : (escapeByNumber value).isAscii = true := by
  have opening : Text.isAscii ("\\u" : Text) = true := rfl
  unfold escapeByNumber
  split
  · exact Text.isAscii_append opening (Hex.isAscii_digits 4 _)
  · refine Text.isAscii_ofPieces ?_
    simp only [List.forall_mem_cons]
    exact ⟨opening, Hex.isAscii_digits 4 _, opening, Hex.isAscii_digits 4 _, nofun⟩

theorem isAscii_escape (point : CodePoint) : (escape true point).isAscii = true := by
  unfold escape
  split_ifs with quote backslash lineFeed carriageReturn tab backspace formFeed numbered
  · rfl
  · rfl
  · rfl
  · rfl
  · rfl
  · rfl
  · rfl
  · exact isAscii_escapeByNumber _
  · have small : point.value < 0x80 := by
      have visible : ¬0x7F ≤ point.value := fun large => numbered (Or.inr ⟨rfl, large⟩)
      omega
    exact Text.isAscii_cons (decide_eq_true small) rfl

theorem isAscii_printString (text : Text) : (printString true text).isAscii = true := by
  refine Text.isAscii_append (Text.isAscii_cons rfl ?_) rfl
  rw [Text.isAscii_iff]
  intro point member
  obtain ⟨source, _, within⟩ := List.mem_flatMap.mp member
  exact (Text.isAscii_iff _).mp (isAscii_escape source) point within

/-- A layout is ASCII if it leaves nothing beyond that as it is and its separators hold none. -/
structure Layout.IsAscii (layout : Layout) : Prop where
  asciiOnly : layout.asciiOnly = true
  comma : layout.comma.isAscii = true
  colon : layout.colon.isAscii = true

theorem Layout.isAscii_spacedAscii : spacedAscii.IsAscii := ⟨rfl, rfl, rfl⟩

section Printing

variable {layout : Layout}

theorem Layout.isAscii_lineBreak (layout : Layout) (level : Nat) :
    (layout.lineBreak level).isAscii = true := by
  unfold lineBreak
  split
  · rfl
  · exact Text.isAscii_cons rfl (Text.isAscii_replicate _ rfl)

theorem isAscii_enclose (ascii : layout.IsAscii) (level : Nat) {opening closing : Text}
    (asciiOpening : opening.isAscii = true) (asciiClosing : closing.isAscii = true) {pieces : List Text}
    (asciiPieces : ∀ piece ∈ pieces, piece.isAscii = true) :
    (enclose layout level opening closing pieces).isAscii = true := by
  cases pieces with
  | nil => exact Text.isAscii_append asciiOpening asciiClosing
  | cons first rest =>
    have separator := Text.isAscii_append ascii.comma (layout.isAscii_lineBreak (level + 1))
    refine Text.isAscii_ofPieces ?_
    simp only [List.forall_mem_cons]
    exact ⟨asciiOpening, layout.isAscii_lineBreak _, Text.isAscii_join separator asciiPieces,
      layout.isAscii_lineBreak _, asciiClosing, nofun⟩

mutual

/-- The text of a value holds nothing beyond ASCII. -/
theorem isAscii_print (ascii : layout.IsAscii) :
    ∀ (value : Json) (level : Nat), (print layout level value).isAscii = true
  | .null, _ => rfl
  | .bool value, _ => by cases value <;> rfl
  | .integer value, _ => Text.isAscii_ofInt value
  | .double value, _ => by
    rw [print]
    unfold printDouble
    split
    · rfl
    · split <;> rfl
    · exact value.isAscii_write
  | .string value, _ => by
    rw [print, ascii.asciiOnly]
    exact isAscii_printString value
  | .array items, level => by
    rw [print]
    exact isAscii_enclose ascii level rfl rfl (isAscii_printItems ascii items (level + 1))
  | .object members, level => by
    rw [print]
    exact isAscii_enclose ascii level rfl rfl (isAscii_printMembers ascii members (level + 1))

theorem isAscii_printItems (ascii : layout.IsAscii) : ∀ (items : List Json) (level : Nat),
    ∀ piece ∈ printItems layout level items, piece.isAscii = true
  | [], _ => fun _ member => nomatch member
  | item :: rest, level => by
    rw [printItems, List.forall_mem_cons]
    exact ⟨isAscii_print ascii item level, isAscii_printItems ascii rest level⟩

theorem isAscii_printMembers (ascii : layout.IsAscii) :
    ∀ (members : List (Text × Json)) (level : Nat),
      ∀ piece ∈ printMembers layout level members, piece.isAscii = true
  | [], _ => fun _ member => nomatch member
  | (key, value) :: rest, level => by
    rw [printMembers, List.forall_mem_cons]
    refine ⟨Text.isAscii_ofPieces ?_, isAscii_printMembers ascii rest level⟩
    simp only [List.forall_mem_cons]
    refine ⟨?_, ascii.colon, isAscii_print ascii value level, nofun⟩
    rw [ascii.asciiOnly]
    exact isAscii_printString key

end

end Printing

end Json

end ApiDoc
