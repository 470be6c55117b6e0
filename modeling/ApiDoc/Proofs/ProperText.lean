/-
This file follows texts without surrogates. What a column is described and typed with is such a text
if the name of the column and its type token are.
-/
import ApiDoc.Column.Naming
import ApiDoc.Column.Typing
import ApiDoc.Proofs.JsonStrings

namespace ApiDoc

/-! ### Proper texts -/

namespace Text

/-- A text is proper if it consists of characters. -/
def IsProper (text : Text) : Prop := ∀ point ∈ text, ∃ character, point = .char character

theorem isProper_iff (text : Text) :
    IsProper text ↔ text.all (·.toChar?.isSome) = true := by
  rw [List.all_eq_true]
  refine forall₂_congr fun point _ => ?_
  cases point with
  | char character => exact iff_of_true ⟨character, rfl⟩ rfl
  | surrogate half => exact iff_of_false nofun Bool.false_ne_true

instance (text : Text) : Decidable (IsProper text) := decidable_of_iff _ (isProper_iff text).symm

theorem isProper_nil : IsProper [] := fun _ member => nomatch member

theorem isProper_map (characters : List Char) : IsProper (characters.map .char) := by
  intro point member
  obtain ⟨character, _, same⟩ := List.mem_map.mp member
  exact ⟨character, same.symm⟩

theorem isProper_ofString (string : String) : IsProper (ofString string) :=
  isProper_map string.toList

theorem IsProper.subset {text part : Text} (proper : IsProper text)
    (subset : ∀ point ∈ part, point ∈ text) : IsProper part :=
  fun point member => proper point (subset point member)

theorem IsProper.append {first second : Text} (proper : IsProper first)
    (properSecond : IsProper second) : IsProper (first ++ second) :=
  fun point member => (List.mem_append.mp member).elim (proper point) (properSecond point)

theorem isProper_ofPieces {pieces : List Text} (proper : ∀ piece ∈ pieces, piece.IsProper) :
    (ofPieces pieces).IsProper := by
  intro point member
  obtain ⟨piece, among, within⟩ := List.mem_flatten.mp member
  exact proper piece among point within

/-- In a proper text there are no halves to join. -/
theorem IsProper.joinHalves_eq {text : Text} (proper : IsProper text) :
    text.joinHalves = text := by
  induction text with
  | nil => rfl
  | cons point rest inductionHypothesis =>
    obtain ⟨character, rfl⟩ := proper point List.mem_cons_self
    rw [joinHalves, inductionHypothesis fun other member => proper other (.tail _ member)]

theorem isProper_replaceFrom {fragment replacement text : Text} (proper : IsProper text)
    (properReplacement : IsProper replacement) (covered : Nat) :
    IsProper (replaceFrom fragment replacement covered text) := by
  induction text generalizing covered with
  | nil =>
    rw [replaceFrom]
    exact isProper_nil
  | cons point rest inductionHypothesis =>
    have properRest : IsProper rest := fun other member => proper other (.tail _ member)
    cases covered with
    | succ covered => exact inductionHypothesis properRest covered
    | zero =>
      rw [replaceFrom]
      split
      · exact properReplacement.append (inductionHypothesis properRest _)
      · intro other member
        rcases List.mem_cons.mp member with rfl | later
        · exact proper other List.mem_cons_self
        · exact inductionHypothesis properRest 0 other later

theorem mem_of_mem_afterFirst? {mark : CodePoint} {text after : Text}
    (found : afterFirst? mark text = some after) : ∀ point ∈ after, point ∈ text := by
  induction text with
  | nil => cases found
  | cons first rest inductionHypothesis =>
    rw [afterFirst?] at found
    split at found
    · cases found
      exact fun point member => .tail _ member
    · exact fun point member => .tail _ (inductionHypothesis found point member)

theorem mem_of_mem_afterLast {mark : CodePoint} {text : Text} {point : CodePoint}
    (member : point ∈ afterLast mark text) : point ∈ text := by
  induction text with
  | nil => exact member
  | cons first rest inductionHypothesis =>
    rw [afterLast] at member
    split at member
    · exact .tail _ (inductionHypothesis member)
    · split at member
      · exact .tail _ member
      · exact member

theorem isProper_lowerAfter {text : Text} (proper : IsProper text) (before : Text) :
    IsProper (lowerAfter before text) := by
  induction text generalizing before with
  | nil => exact isProper_nil
  | cons point rest inductionHypothesis =>
    have lowered : IsProper [point.toLower] := by
      obtain ⟨character, rfl⟩ := proper point List.mem_cons_self
      intro other member
      obtain rfl := List.mem_singleton.mp member
      unfold CodePoint.toLower
      dsimp only
      split <;> exact ⟨_, rfl⟩
    rw [lowerAfter]
    refine IsProper.append ?_ (inductionHypothesis (fun other member =>
      proper other (.tail _ member)) _)
    split_ifs
    · exact isProper_map ['i', '\u0307']
    · exact isProper_map [_]
    · exact isProper_map [_]
    · exact lowered

theorem isProper_lowercase {text : Text} (proper : IsProper text) : IsProper text.lowercase :=
  isProper_lowerAfter proper []

end Text

/-! ### Columns -/

namespace Column

theorem isProper_suffix {column : Text} (proper : column.IsProper) : (suffix column).IsProper := by
  unfold suffix
  cases found : column.afterFirst? (.char '_') with
  | none => exact proper
  | some after => exact proper.subset (Text.mem_of_mem_afterFirst? found)

/-- A column is described with a proper text if its name is one. -/
theorem isProper_describe? {table column description : Text} (proper : column.IsProper)
    (described : describe? table column = some description) : description.IsProper := by
  have properReferenced : ((suffix column).replacing "ID" []).IsProper :=
    Text.isProper_replaceFrom (isProper_suffix proper) Text.isProper_nil 0
  have properPieces (first second : String) {text : Text} (properText : text.IsProper) :
      (Text.ofPieces [first, text, second]).IsProper := by
    refine Text.isProper_ofPieces ?_
    simp only [List.forall_mem_cons]
    exact ⟨Text.isProper_ofString first, properText, Text.isProper_ofString second,
      List.forall_mem_nil _⟩
  unfold describe? at described
  split_ifs at described
  all_goals cases described
  · exact Text.isProper_ofString _
  · exact Text.isProper_ofString _
  · exact properPieces _ _ properReferenced
  · exact properPieces _ _ properReferenced
  · exact properPieces _ _ proper

end Column

/-! ### Types -/

namespace ColumnType

/-- The texts of a type. -/
def texts (type : ColumnType) : List Text :=
  type.type :: (type.format.toList ++ type.description.toList)

/-- The texts of a type are proper. -/
def IsProper (type : ColumnType) : Prop := ∀ text ∈ type.texts, text.IsProper

theorem isProper_described (type format : String) {description : Text}
    (proper : description.IsProper) : (described type format description).IsProper := by
  intro text member
  simp only [texts, described, Option.toList_some, List.mem_cons, List.mem_append,
    List.not_mem_nil, or_false] at member
  rcases member with rfl | rfl | rfl
  · exact Text.isProper_ofString type
  · exact Text.isProper_ofString format
  · exact proper

theorem isProper_twoPieces (first second : String) :
    (Text.ofPieces [first, second]).IsProper :=
  Text.isProper_ofPieces (List.forall_mem_cons.mpr ⟨Text.isProper_ofString first,
    List.forall_mem_singleton.mpr (Text.isProper_ofString second)⟩)

theorem isProper_email : email.IsProper :=
  isProper_described _ _ (isProper_twoPieces _ _)

theorem isProper_byte : byte.IsProper := isProper_described _ _ (Text.isProper_ofString _)

theorem isProper_of_mem_mentioned : ∀ entry ∈ mentioned, entry.2.IsProper :=
  List.forall_mem_singleton.mpr (isProper_described _ _ (Text.isProper_ofString _))

theorem isProper_of_mem_exact : ∀ entry ∈ exact, entry.2.IsProper := by
  have date : date.IsProper := isProper_described _ _ (Text.isProper_ofString _)
  have time : time.IsProper := isProper_described _ _ (Text.isProper_ofString _)
  have decimal : decimal.IsProper := isProper_described _ _ (Text.isProper_ofString _)
  have binary : binary.IsProper := isProper_described _ _ (Text.isProper_ofString _)
  have guid : guid.IsProper := isProper_described _ _ (isProper_twoPieces _ _)
  have short : unsignedShort.IsProper := isProper_described _ _ (Text.isProper_ofString _)
  simp only [exact, List.forall_mem_cons]
  exact ⟨date, time, decimal, decimal, decimal, binary, binary, isProper_byte, guid, short,
    List.forall_mem_nil _⟩

/-- A column is typed with proper texts if its token is one. -/
theorem isProper_ofColumn {token : Text} (proper : token.IsProper) (column : Text) :
    (ofColumn token column).IsProper := by
  unfold ofColumn ofName?
  split_ifs
  · exact isProper_email
  · exact isProper_byte
  · show (ofToken token).IsProper
    unfold ofToken
    dsimp only
    split
    · rename_i found
      exact isProper_of_mem_mentioned _ (List.mem_of_find?_eq_some found)
    · cases found : Dict.get? exact token.lowercase with
      | some type => exact isProper_of_mem_exact _ (Dict.mem_of_get?_eq_some found)
      | none =>
        intro text member
        obtain rfl := List.mem_singleton.mp member
        exact Text.isProper_lowercase proper

end ColumnType

end ApiDoc
