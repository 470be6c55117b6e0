/-
This file proves what is read of a written string. Where nothing beyond ASCII is left unescaped, an
opening half of a surrogate pair that a closing half follows is written exactly like the character
that the two make up, so they are read as that character; everything else is read as it was.
-/
import ApiDoc.Proofs.JsonTokens
import Mathlib.Tactic.SplitIfs

namespace ApiDoc

/-- The text in which every opening half of a surrogate pair that a closing half follows has become
one character with it. -/
def Text.joinHalves : Text → Text
  | [] => []
  | .char character :: rest => .char character :: joinHalves rest
  | [.surrogate half] => [.surrogate half]
  | .surrogate half :: .char character :: rest =>
    .surrogate half :: .char character :: joinHalves rest
  | .surrogate opening :: .surrogate closing :: rest =>
    if opening.val < 0x400 ∧ 0x400 ≤ closing.val then
      Utf16.joinPair (0xD800 + opening.val) (0xD800 + closing.val) :: joinHalves rest
    else .surrogate opening :: joinHalves (.surrogate closing :: rest)

namespace Text

theorem joinHalves_closing {half : Fin 2048} (closing : 0x400 ≤ half.val) (rest : Text) :
    joinHalves (.surrogate half :: rest) = .surrogate half :: joinHalves rest := by
  rcases rest with _ | ⟨character | other, rest⟩
  · rfl
  · rfl
  · rw [joinHalves, if_neg fun pair => absurd pair.1 (by omega)]

theorem joinHalves_pair {opening closing : Fin 2048} (opens : opening.val < 0x400)
    (closes : 0x400 ≤ closing.val) (rest : Text) :
    joinHalves (.surrogate opening :: .surrogate closing :: rest) =
      Utf16.joinPair (0xD800 + opening.val) (0xD800 + closing.val) :: joinHalves rest := by
  rw [joinHalves, if_pos ⟨opens, closes⟩]

theorem joinHalves_opening_opening (first : Fin 2048) {second : Fin 2048}
    (opens : second.val < 0x400) (rest : Text) :
    joinHalves (.surrogate first :: .surrogate second :: rest) =
      .surrogate first :: joinHalves (.surrogate second :: rest) := by
  rw [joinHalves, if_neg fun pair => absurd pair.2 (by omega)]

end Text

namespace Json.Token

/-! ### Escapes by number -/

theorem hexDigit?_digit {value : Nat} (small : value < 0x10) :
    (Hex.digit value).hexDigit? = some value := by
  have all : ∀ value < 0x10, (Hex.digit value).hexDigit? = some value := by decide
  exact all value small

theorem digits_four (value : Nat) :
    Hex.digits 4 value = [Hex.digit (value / 0x1000 % 0x10), Hex.digit (value / 0x100 % 0x10),
      Hex.digit (value / 0x10 % 0x10), Hex.digit (value % 0x10)] := by
  simp only [Hex.digits, List.nil_append, List.cons_append, Nat.div_div_eq_div_mul]

/-- A code point that completes no token only moves the pass on. -/
theorem listFrom_of_pass {place next : Place} {point : CodePoint}
    (passes : pass place point = ([], next)) (rest : Text) :
    listFrom place (point :: rest) = listFrom next rest := by
  rw [listFrom, passes]
  rfl

theorem pass_digit (read : Text) (high : Option (Fin 2048)) {count : Nat} (more : count ≠ 3)
    (value shown : Nat) :
    pass (.escapeDigits read high count value) (Hex.digit (shown % 0x10)) =
      ([], .escapeDigits read high (count + 1) (value * 0x10 + shown % 0x10)) := by
  rw [pass, hexDigit?_digit (Nat.mod_lt _ (by decide))]
  exact if_neg more

theorem pass_last_digit (read : Text) (high : Option (Fin 2048)) (value shown : Nat) :
    pass (.escapeDigits read high 3 value) (Hex.digit (shown % 0x10)) =
      ([], afterEscapeDigits read high (value * 0x10 + shown % 0x10)) := by
  rw [pass, hexDigit?_digit (Nat.mod_lt _ (by decide))]
  rfl

/-- A backslash and four digits are an escape by number. -/
theorem listFrom_number (read : Text) (high : Option (Fin 2048)) {value : Nat}
    (small : value < 0x10000) (rest : Text) :
    listFrom (.string read high) ("\\u" ++ Hex.digits 4 value ++ rest) =
      listFrom (afterEscapeDigits read high value) rest := by
  have whole : (((0 * 0x10 + value / 0x1000 % 0x10) * 0x10 + value / 0x100 % 0x10) * 0x10 +
      value / 0x10 % 0x10) * 0x10 + value % 0x10 = value := by omega
  have entered (rest : Text) : listFrom (.string read high) (.char '\\' :: .char 'u' :: rest) =
      listFrom (.escapeDigits read high 0 0) rest := rfl
  rw [digits_four]
  show listFrom (.string read high) (.char '\\' :: .char 'u' :: _ :: _ :: _ :: _ :: rest) = _
  rw [entered, listFrom_of_pass (pass_digit read high (by decide) _ _),
    listFrom_of_pass (pass_digit read high (by decide) _ _),
    listFrom_of_pass (pass_digit read high (by decide) _ _),
    listFrom_of_pass (pass_last_digit read high _ _), whole]

/-! ### Single code points -/

theorem afterEscapeDigits_char (read : Text) (high : Option (Fin 2048)) (character : Char) :
    afterEscapeDigits read high character.toNat =
      .string (.char character :: settle read high) none := by
  have named : CodePoint.ofValue? character.toNat = some (.char character) := by
    have valid : character.toNat < 0xD800 ∨ 0xDFFF < character.toNat ∧ character.toNat < 0x110000 :=
      character.valid
    unfold CodePoint.ofValue?
    rw [dif_neg (by omega), if_pos (by omega), Char.ofNat_toNat]
  unfold afterEscapeDigits
  rw [named]

theorem ofValue?_surrogate (half : Fin 2048) :
    CodePoint.ofValue? (0xD800 + half.val) = some (.surrogate half) := by
  unfold CodePoint.ofValue?
  rw [dif_pos (by omega)]
  simp only [Nat.add_sub_cancel_left]

theorem afterEscapeDigits_opening (read : Text) (high : Option (Fin 2048)) {half : Fin 2048}
    (opens : half.val < 0x400) :
    afterEscapeDigits read high (0xD800 + half.val) = .string (settle read high) (some half) := by
  unfold afterEscapeDigits
  rw [ofValue?_surrogate]
  exact if_pos opens

theorem afterEscapeDigits_closing (read : Text) {half : Fin 2048} (closes : 0x400 ≤ half.val) :
    afterEscapeDigits read none (0xD800 + half.val) = .string (.surrogate half :: read) none := by
  unfold afterEscapeDigits
  rw [ofValue?_surrogate]
  exact if_neg (by omega)

theorem afterEscapeDigits_pair (read : Text) (opening : Fin 2048) {closing : Fin 2048}
    (closes : 0x400 ≤ closing.val) :
    afterEscapeDigits read (some opening) (0xD800 + closing.val) =
      .string (Utf16.joinPair (0xD800 + opening.val) (0xD800 + closing.val) :: read) none := by
  unfold afterEscapeDigits
  rw [ofValue?_surrogate]
  exact if_neg (by omega)

/-- A character beyond sixteen bits is made up of the halves that it is written as. -/
theorem joinPair_halves {character : Char} (large : 0x10000 ≤ character.toNat) :
    Utf16.joinPair (0xD800 + (character.toNat - 0x10000) / 0x400)
      (0xD800 + (0x400 + (character.toNat - 0x10000) % 0x400)) = .char character := by
  unfold Utf16.joinPair
  have whole : 0x10000 + (0xD800 + (character.toNat - 0x10000) / 0x400 - 0xD800) * 0x400 +
      (0xD800 + (0x400 + (character.toNat - 0x10000) % 0x400) - 0xDC00) = character.toNat := by
    omega
  rw [whole, Char.ofNat_toNat]

/-- The escape of a character by its number, or by those of its halves, is read as the character. -/
theorem listFrom_escapeByNumber (read : Text) (high : Option (Fin 2048)) (character : Char)
    (rest : Text) :
    listFrom (.string read high) (escapeByNumber character.toNat ++ rest) =
      listFrom (.string (.char character :: settle read high) none) rest := by
  unfold escapeByNumber
  split
  · rename_i small
    rw [listFrom_number read high small, afterEscapeDigits_char]
  · rename_i large
    have valid : character.toNat < 0x110000 := by
      rcases character.valid with below | above
      · exact Nat.lt_trans below (by decide)
      · exact above.2
    have joined := joinPair_halves (Nat.le_of_not_lt large)
    obtain ⟨opening, opens, shown⟩ : ∃ opening : Fin 2048, opening.val < 0x400 ∧
        opening.val = (character.toNat - 0x10000) / 0x400 :=
      ⟨⟨(character.toNat - 0x10000) / 0x400, by omega⟩, by dsimp only; omega, rfl⟩
    obtain ⟨closing, closes, shownToo⟩ : ∃ closing : Fin 2048, 0x400 ≤ closing.val ∧
        closing.val = 0x400 + (character.toNat - 0x10000) % 0x400 :=
      ⟨⟨0x400 + (character.toNat - 0x10000) % 0x400, by omega⟩, by dsimp only; omega, rfl⟩
    have sum : 0xDC00 + (character.toNat - 0x10000) % 0x400 = 0xD800 + closing.val := by omega
    rw [← shown, ← shownToo] at joined
    dsimp only
    rw [sum, ← shown]
    simp only [Text.ofPieces, List.flatten_cons, List.flatten_nil, List.append_nil]
    rw [← List.append_assoc, List.append_assoc,
      listFrom_number read high (by omega), afterEscapeDigits_opening read high opens,
      listFrom_number _ _ (by omega), afterEscapeDigits_pair _ opening closes, joined]

/-- What a string holds unescaped is read as it is. -/
theorem pass_unescaped (read : Text) (high : Option (Fin 2048)) {point : CodePoint}
    (noQuote : point ≠ .char '"') (noBackslash : point ≠ .char '\\')
    (visible : 0x20 ≤ point.value) :
    pass (.string read high) point = ([], .string (point :: settle read high) none) := by
  rw [pass, if_neg noQuote, if_neg noBackslash, if_neg (Nat.not_lt.mpr visible)]

/-- A character of a string is read as it is. -/
theorem listFrom_escape_char (asciiOnly : Bool) (read : Text) (high : Option (Fin 2048))
    (character : Char) (rest : Text) :
    listFrom (.string read high) (escape asciiOnly (.char character) ++ rest) =
      listFrom (.string (.char character :: settle read high) none) rest := by
  unfold escape
  split_ifs with quote backslash lineFeed carriageReturn tab backspace formFeed numbered
  · cases quote; rfl
  · cases backslash; rfl
  · cases lineFeed; rfl
  · cases carriageReturn; rfl
  · cases tab; rfl
  · cases backspace; rfl
  · cases formFeed; rfl
  · exact listFrom_escapeByNumber read high character rest
  · refine listFrom_of_pass (pass_unescaped read high quote backslash ?_) rest
    exact Nat.le_of_not_lt fun small => numbered (Or.inl small)

/-- A half of a surrogate pair is written by its number where only ASCII is left as it is. -/
theorem escape_surrogate (asciiOnly : Bool) (half : Fin 2048) :
    escape asciiOnly (.surrogate half) =
      if asciiOnly then "\\u" ++ Hex.digits 4 (0xD800 + half.val) else [.surrogate half] := by
  have noCharacter (character : Char) : CodePoint.surrogate half ≠ .char character := nofun
  have shown : (CodePoint.surrogate half).value = 0xD800 + half.val := rfl
  unfold escape
  iterate 7 rw [if_neg (noCharacter _)]
  rw [shown]
  cases asciiOnly with
  | true =>
    rw [if_pos (Or.inr ⟨rfl, by omega⟩)]
    exact if_pos (by omega)
  | false =>
    refine if_neg ?_
    rintro (small | ⟨impossible, _⟩)
    · omega
    · cases impossible

theorem listFrom_escape_surrogate (read : Text) (high : Option (Fin 2048)) (half : Fin 2048)
    (rest : Text) :
    listFrom (.string read high) (escape true (.surrogate half) ++ rest) =
      listFrom (afterEscapeDigits read high (0xD800 + half.val)) rest := by
  rw [escape_surrogate, if_pos rfl, listFrom_number read high (by omega)]

/-! ### Whole strings -/

/-- What a string is read as that is written in full or with nothing but ASCII. -/
def rereadString (asciiOnly : Bool) (text : Text) : Text :=
  if asciiOnly then text.joinHalves else text

/-- The text of a pending opening half. -/
def pendingHalf : Option (Fin 2048) → Text
  | none => []
  | some half => [.surrogate half]

theorem reverse_settle (read : Text) (high : Option (Fin 2048)) :
    (settle read high).reverse = read.reverse ++ pendingHalf high := by
  cases high with
  | none => exact (List.append_nil _).symm
  | some half => exact List.reverse_cons

theorem joinHalves_pending_char (high : Option (Fin 2048)) (character : Char) (rest : Text) :
    (pendingHalf high ++ .char character :: rest).joinHalves =
      pendingHalf high ++ .char character :: rest.joinHalves := by
  cases high <;> rfl

/-- Another opening half leaves the pending one alone. -/
theorem joinHalves_pending_opening (high : Option (Fin 2048)) {half : Fin 2048}
    (opens : half.val < 0x400) (rest : Text) :
    (pendingHalf high ++ .surrogate half :: rest).joinHalves =
      pendingHalf high ++ Text.joinHalves (.surrogate half :: rest) := by
  cases high with
  | none => rfl
  | some first => exact Text.joinHalves_opening_opening first opens rest

/-- A string of which some is read goes on with the rest, of which the first half may complete the
opening half that was read last. -/
theorem listFrom_ascii (text read : Text) (high : Option (Fin 2048))
    (opens : ∀ half ∈ high, half.val < 0x400) (rest : Text) :
    listFrom (.string read high) (text.flatMap (escape true) ++ .char '"' :: rest) =
      .string (read.reverse ++ (pendingHalf high ++ text).joinHalves) ::
        listFrom .between rest := by
  induction text generalizing read high with
  | nil =>
    show [Token.string (settle read high).reverse] ++ listFrom .between rest = _
    rw [reverse_settle]
    cases high <;> rfl
  | cons point others inductionHypothesis =>
    rw [List.flatMap_cons, List.append_assoc]
    cases point with
    | char character =>
      rw [listFrom_escape_char, inductionHypothesis _ none nofun, List.reverse_cons,
        reverse_settle, joinHalves_pending_char, List.append_assoc, List.append_assoc]
      rfl
    | surrogate half =>
      rw [listFrom_escape_surrogate]
      by_cases opening : half.val < 0x400
      · rw [afterEscapeDigits_opening read high opening, inductionHypothesis _ (some half)
          (fun _ member => Option.mem_some_iff.mp member ▸ opening), reverse_settle,
          joinHalves_pending_opening high opening, List.append_assoc]
        rfl
      · have closing : 0x400 ≤ half.val := Nat.le_of_not_lt opening
        cases high with
        | none =>
          rw [afterEscapeDigits_closing read closing, inductionHypothesis _ none nofun,
            List.reverse_cons, List.append_assoc]
          show _ = Token.string (read.reverse ++ Text.joinHalves (.surrogate half :: others)) :: _
          rw [Text.joinHalves_closing closing]
          rfl
        | some first =>
          rw [afterEscapeDigits_pair read first closing, inductionHypothesis _ none nofun,
            List.reverse_cons, List.append_assoc]
          show _ = Token.string (read.reverse ++
            Text.joinHalves (.surrogate first :: .surrogate half :: others)) :: _
          rw [Text.joinHalves_pair (opens first rfl) closing]
          rfl

/-- Where everything is left as it is that may be, a string is read as it was. -/
theorem listFrom_unicode (text read : Text) (rest : Text) :
    listFrom (.string read none) (text.flatMap (escape false) ++ .char '"' :: rest) =
      .string (read.reverse ++ text) :: listFrom .between rest := by
  induction text generalizing read with
  | nil =>
    rw [List.append_nil]
    rfl
  | cons point others inductionHypothesis =>
    have passed : listFrom (.string read none) (escape false point ++
        (others.flatMap (escape false) ++ .char '"' :: rest)) =
        listFrom (.string (point :: read) none)
          (others.flatMap (escape false) ++ .char '"' :: rest) := by
      cases point with
      | char character => exact listFrom_escape_char false read none character _
      | surrogate half =>
        have visible : 0x20 ≤ (CodePoint.surrogate half).value := by
          show 0x20 ≤ 0xD800 + half.val
          omega
        rw [escape_surrogate, if_neg Bool.false_ne_true]
        refine listFrom_of_pass (pass_unescaped read none ?_ ?_ visible) _
        · exact fun same => nomatch same
        · exact fun same => nomatch same
    rw [List.flatMap_cons, List.append_assoc, passed, inductionHypothesis, List.reverse_cons,
      List.append_assoc]
    rfl

/-- A written string is one token: the string that it is read as. -/
theorem spells_printString (asciiOnly : Bool) (text : Text) :
    Spells (printString asciiOnly text) [.string (rereadString asciiOnly text)] := by
  intro rest
  have entered : listFrom .between (printString asciiOnly text ++ rest) =
      listFrom (.string [] none) (text.flatMap (escape asciiOnly) ++ .char '"' :: rest) := by
    unfold printString
    rw [List.append_assoc, List.cons_append]
    rfl
  rw [entered]
  cases asciiOnly with
  | true => exact listFrom_ascii text [] none nofun rest
  | false => exact listFrom_unicode text [] rest

end Json.Token

end ApiDoc
