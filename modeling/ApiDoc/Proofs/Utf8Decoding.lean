/-
This file proves that the characters of a document come back from their bytes in UTF-8: each takes
as many as its number needs, and the first byte tells how many belong to it.
-/
import ApiDoc.Proofs.SteadyDecoding

namespace ApiDoc

theorem CodePoint.ofValue?_toNat (character : Char) :
    ofValue? character.toNat = some (.char character) := by
  have valid : character.toNat < 0xD800 ∨ 0xDFFF < character.toNat ∧ character.toNat < 0x110000 :=
    character.valid
  unfold ofValue?
  rw [dif_neg (by omega), if_pos (by omega), Char.ofNat_toNat]

theorem toNat_lt (character : Char) : character.toNat < 0x110000 := by
  have valid : character.toNat < 0xD800 ∨ 0xDFFF < character.toNat ∧ character.toNat < 0x110000 :=
    character.valid
  omega

namespace Utf8

/-! ### Bytes of numbers -/

theorem toNat_toUInt8 (number : Nat) (limited : number < 0x100) : number.toUInt8.toNat = number :=
  UInt8.toNat_ofNat_of_lt' limited

/-- A byte that carries six bits of a number continues a character. -/
@[simp]
theorem isContinuation_sixBits (number : Nat) :
    isContinuation (0x80 + number % 0x40).toUInt8 = true := by
  have byte := toNat_toUInt8 (0x80 + number % 0x40) (by omega)
  simp only [isContinuation, UInt8.le_iff_toNat_le, UInt8.lt_iff_toNat_lt, byte, UInt8.toNat_ofNat,
    Bool.and_eq_true, decide_eq_true_eq]
  omega

@[simp]
theorem low_sixBits (number : Nat) : low (0x80 + number % 0x40).toUInt8 = number % 0x40 := by
  rw [low, toNat_toUInt8 _ (by omega)]
  omega

theorem pair?_encode (value : Nat) (given : 0x80 ≤ value) (limited : value < 0x800) :
    pair? (0xC0 + value / 0x40).toUInt8 (0x80 + value % 0x40).toUInt8 =
      CodePoint.ofValue? value := by
  have lead := toNat_toUInt8 (0xC0 + value / 0x40) (by omega)
  simp only [pair?, isContinuation_sixBits, low_sixBits, UInt8.le_iff_toNat_le,
    UInt8.lt_iff_toNat_lt, lead, UInt8.toNat_ofNat, Bool.and_eq_true, decide_eq_true_eq, and_true]
  rw [if_pos (by omega)]
  congr 1
  omega

theorem triple?_encode (value : Nat) (given : 0x800 ≤ value) (limited : value < 0x10000) :
    triple? (0xE0 + value / 0x1000).toUInt8 (0x80 + value / 0x40 % 0x40).toUInt8
      (0x80 + value % 0x40).toUInt8 = CodePoint.ofValue? value := by
  have lead := toNat_toUInt8 (0xE0 + value / 0x1000) (by omega)
  simp only [triple?, isContinuation_sixBits, low_sixBits, UInt8.le_iff_toNat_le,
    UInt8.lt_iff_toNat_lt, lead, UInt8.toNat_ofNat, Bool.and_eq_true, decide_eq_true_eq, and_true]
  rw [if_pos (by omega)]
  congr 1
  omega

theorem quadruple?_encode (value : Nat) (given : 0x10000 ≤ value) (limited : value < 0x110000) :
    quadruple? (0xF0 + value / 0x40000).toUInt8 (0x80 + value / 0x1000 % 0x40).toUInt8
      (0x80 + value / 0x40 % 0x40).toUInt8 (0x80 + value % 0x40).toUInt8 =
      CodePoint.ofValue? value := by
  have lead := toNat_toUInt8 (0xF0 + value / 0x40000) (by omega)
  simp only [quadruple?, isContinuation_sixBits, low_sixBits, UInt8.le_iff_toNat_le,
    UInt8.lt_iff_toNat_lt, lead, UInt8.toNat_ofNat, Bool.and_eq_true, decide_eq_true_eq, and_true]
  rw [if_pos (by omega)]
  congr 1
  omega

end Utf8

namespace Utf8

/-! ### Bytes of texts -/

theorem encode_append (first second : Text) :
    encode (first ++ second) = encode first ++ encode second :=
  List.flatMap_append

theorem encode_cons (character : Char) (rest : List Char) :
    encode ((character :: rest).map .char) =
      encodeValue character.toNat ++ encode (rest.map .char) := rfl

/-- No byte is zero but that of the character zero. -/
theorem ne_zero_of_mem_encodeValue {value : Nat} (given : value ≠ 0) (limited : value < 0x110000) :
    ∀ byte ∈ encodeValue value, byte ≠ 0 := by
  have some {number : Nat} (positive : 0 < number) (fits : number < 0x100) :
      number.toUInt8 ≠ 0 := by
    intro zero
    have same := congrArg UInt8.toNat zero
    rw [toNat_toUInt8 number fits] at same
    exact absurd same (Nat.ne_of_gt positive)
  intro byte member
  unfold encodeValue at member
  split at member
  · obtain rfl := List.mem_singleton.1 member
    exact some (by omega) (by omega)
  split at member
  · simp only [List.mem_cons, List.not_mem_nil, or_false] at member
    rcases member with rfl | rfl <;> exact some (by omega) (by omega)
  split at member
  · simp only [List.mem_cons, List.not_mem_nil, or_false] at member
    rcases member with rfl | rfl | rfl <;> exact some (by omega) (by omega)
  · simp only [List.mem_cons, List.not_mem_nil, or_false] at member
    rcases member with rfl | rfl | rfl | rfl <;> exact some (by omega) (by omega)

theorem exists_cons_encodeValue (value : Nat) :
    ∃ byte rest, encodeValue value = byte :: rest := by
  unfold encodeValue
  repeat' split
  all_goals exact ⟨_, _, rfl⟩

/-- A character of ASCII takes a single byte. -/
theorem encodeValue_ascii {value : Nat} (ascii : value < 0x80) :
    encodeValue value = [value.toUInt8] :=
  if_pos ascii

theorem length_encode_ascii {characters : List Char}
    (ascii : ∀ character ∈ characters, character.toNat < 0x80) :
    (encode (characters.map .char)).length = characters.length := by
  induction characters with
  | nil => rfl
  | cons character others inductionHypothesis =>
    rw [encode_cons, encodeValue_ascii (ascii character (List.mem_cons_self ..)),
      List.length_append,
      inductionHypothesis fun other member => ascii other (List.mem_cons_of_mem _ member)]
    exact Nat.add_comm _ _

theorem drop_encode_ascii {before : List Char}
    (ascii : ∀ character ∈ before, character.toNat < 0x80) (rest : List Char) :
    (encode ((before ++ rest).map .char)).drop before.length = encode (rest.map .char) := by
  rw [List.map_append, encode_append]
  exact List.drop_left' (length_encode_ascii ascii)

end Utf8

namespace Xml

theorem toNat_ne_zero_of_isAllowed {character : Char} (allowed : isAllowed character = true) :
    character.toNat ≠ 0 := by
  intro zero
  have same : character = Char.ofNat 0 := by rw [← zero, Char.ofNat_toNat]
  rw [same] at allowed
  exact absurd allowed (by decide)

theorem ne_zero_of_mem_encode {characters : List Char}
    (allowed : ∀ character ∈ characters, isAllowed character = true) :
    ∀ byte ∈ Utf8.encode (characters.map .char), byte ≠ 0 := by
  intro byte member
  simp only [Utf8.encode, List.mem_flatMap, List.mem_map] at member
  obtain ⟨_, ⟨character, among, rfl⟩, within⟩ := member
  exact Utf8.ne_zero_of_mem_encodeValue (toNat_ne_zero_of_isAllowed (allowed character among))
    (toNat_lt character) byte within

namespace Coding

/-! ### Characters -/

/-- A character that may stand in a document is what its bytes begin with. -/
theorem leadingUtf8_encodeValue {character : Char} (allowed : isAllowed character = true)
    (rest : Bytes) :
    leadingUtf8 (Utf8.encodeValue character.toNat ++ rest) = .found character rest := by
  have found : Leading.ofCharacter character rest = .found character rest := if_pos allowed
  have meant := CodePoint.ofValue?_toNat character
  have limited := toNat_lt character
  generalize named : character.toNat = value at meant limited
  unfold Utf8.encodeValue
  split
  · have lead := Utf8.toNat_toUInt8 value (by omega)
    simp only [List.cons_append, List.nil_append, leadingUtf8, UInt8.lt_iff_toNat_lt, lead,
      UInt8.toNat_ofNat]
    rw [if_pos (by omega), ← named, Char.ofNat_toNat]
    exact found
  split
  · have lead := Utf8.toNat_toUInt8 (0xC0 + value / 0x40) (by omega)
    have pair := Utf8.pair?_encode value (by omega) (by omega)
    simp only [List.cons_append, List.nil_append, leadingUtf8, UInt8.lt_iff_toNat_lt, lead,
      UInt8.toNat_ofNat]
    rw [if_neg (by omega), if_neg (by omega), if_pos (by omega), pair, meant]
    exact found
  split
  · have lead := Utf8.toNat_toUInt8 (0xE0 + value / 0x1000) (by omega)
    have triple := Utf8.triple?_encode value (by omega) (by omega)
    simp only [List.cons_append, List.nil_append, leadingUtf8, UInt8.lt_iff_toNat_lt, lead,
      UInt8.toNat_ofNat]
    rw [if_neg (by omega), if_neg (by omega), if_neg (by omega), if_pos (by omega), triple, meant]
    exact found
  · have lead := Utf8.toNat_toUInt8 (0xF0 + value / 0x40000) (by omega)
    have quadruple := Utf8.quadruple?_encode value (by omega) (by omega)
    simp only [List.cons_append, List.nil_append, leadingUtf8, UInt8.lt_iff_toNat_lt, lead,
      UInt8.toNat_ofNat]
    rw [if_neg (by omega), if_neg (by omega), if_neg (by omega), if_neg (by omega),
      if_pos (by omega), quadruple, meant]
    exact found

theorem decode_encode {characters : List Char}
    (allowed : ∀ character ∈ characters, isAllowed character = true) :
    utf8.decode (Utf8.encode (characters.map .char)) =
      { characters, rest := [], valid := true } := by
  induction characters with
  | nil => rfl
  | cons character others inductionHypothesis =>
    have leads := leadingUtf8_encodeValue (allowed character (List.mem_cons_self ..))
      (Utf8.encode (others.map .char))
    rw [Utf8.encode_cons, decode_eq]
    simp only [leading, leads,
      inductionHypothesis fun other member => allowed other (List.mem_cons_of_mem _ member)]

end Coding

end Xml

end ApiDoc
