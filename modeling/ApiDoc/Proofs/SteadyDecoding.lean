/-
This file proves that bytes keep their meaning when more of them arrive: the characters that they
make up, the end of a declaration at their beginning, and the coding that their first ones tell. The
last does not hold of one byte that stands alone: in a text of two-byte units without a mark, the
byte that tells the width of a unit is the second.
-/
import ApiDoc.Xml.Preamble

namespace ApiDoc.Xml

/-! ### Characters -/

/-- What bytes begin with when more bytes stand behind them. -/
def Leading.extended (more : Bytes) : Leading → Leading
  | .found character rest => .found character (rest ++ more)
  | .unfinished => .unfinished
  | .invalid => .invalid

@[simp]
theorem Leading.extended_ofCharacter (character : Char) (rest more : Bytes) :
    (ofCharacter character rest).extended more = ofCharacter character (rest ++ more) := by
  unfold ofCharacter
  split <;> rfl

@[simp]
theorem Leading.extended_ofPoint (point? : Option CodePoint) (rest more : Bytes) :
    (ofPoint point? rest).extended more = ofPoint point? (rest ++ more) := by
  unfold ofPoint
  split
  · exact extended_ofCharacter _ rest more
  · rfl

theorem Leading.rest_of_ofCharacter {character found : Char} {rest left : Bytes}
    (leads : ofCharacter character rest = .found found left) : left = rest := by
  unfold ofCharacter at leads
  split at leads
  · cases leads
    rfl
  · exact nomatch leads

theorem Leading.rest_of_ofPoint {point? : Option CodePoint} {found : Char} {rest left : Bytes}
    (leads : ofPoint point? rest = .found found left) : left = rest := by
  unfold ofPoint at leads
  split at leads
  · exact rest_of_ofCharacter leads
  · exact nomatch leads

namespace Coding

theorem leadingUtf8_append (bytes more : Bytes) (judged : leadingUtf8 bytes ≠ .unfinished) :
    leadingUtf8 (bytes ++ more) = (leadingUtf8 bytes).extended more := by
  match bytes with
  | [] => exact absurd rfl judged
  | lead :: rest =>
    rw [List.cons_append]
    unfold leadingUtf8 at judged ⊢
    dsimp only at judged ⊢
    split
    · exact (Leading.extended_ofCharacter _ rest more).symm
    split
    · rfl
    split
    · match rest with
      | [] => grind
      | second :: rest => exact (Leading.extended_ofPoint _ rest more).symm
    split
    · match rest with
      | [] | [_] => grind
      | second :: third :: rest => exact (Leading.extended_ofPoint _ rest more).symm
    split
    · match rest with
      | [] | [_] | [_, _] => grind
      | second :: third :: fourth :: rest => exact (Leading.extended_ofPoint _ rest more).symm
    · rfl

theorem leadingUtf16_append (order : ByteOrder) (bytes more : Bytes)
    (judged : leadingUtf16 order bytes ≠ .unfinished) :
    leadingUtf16 order (bytes ++ more) = (leadingUtf16 order bytes).extended more := by
  fun_cases leadingUtf16 order bytes with
  | case1 first second high isHigh third fourth rest low =>
    rw [Leading.extended_ofPoint]
    unfold leadingUtf16
    exact if_pos isHigh
  | case2 first second rest high isHigh few =>
    refine absurd ?_ judged
    simp only [leadingUtf16]
    exact if_pos isHigh
  | case3 first second rest high single =>
    rw [Leading.extended_ofPoint]
    unfold leadingUtf16
    exact if_neg single
  | case4 few =>
    refine absurd ?_ judged
    simp only [leadingUtf16]

theorem leadingSingle_append (upper : List Char) (bytes more : Bytes)
    (judged : leadingSingle upper bytes ≠ .unfinished) :
    leadingSingle upper (bytes ++ more) = (leadingSingle upper bytes).extended more := by
  match bytes with
  | [] => exact absurd rfl judged
  | byte :: rest =>
    rw [List.cons_append]
    unfold leadingSingle
    dsimp only
    split
    · exact (Leading.extended_ofCharacter _ rest more).symm
    split
    · split
      · rfl
      · exact (Leading.extended_ofCharacter _ rest more).symm
    · rfl

theorem leadingUtf8_shrinks {bytes rest : Bytes} {character : Char}
    (leads : leadingUtf8 bytes = .found character rest) : rest.length < bytes.length := by
  unfold leadingUtf8 at leads
  repeat' split at leads
  all_goals grind [Leading.rest_of_ofCharacter, Leading.rest_of_ofPoint]

theorem leadingUtf16_shrinks {order : ByteOrder} {bytes rest : Bytes} {character : Char}
    (leads : leadingUtf16 order bytes = .found character rest) :
    rest.length + 2 ≤ bytes.length := by
  unfold leadingUtf16 at leads
  repeat' split at leads
  all_goals grind [Leading.rest_of_ofCharacter, Leading.rest_of_ofPoint]

theorem leadingSingle_shrinks {upper : List Char} {bytes rest : Bytes} {character : Char}
    (leads : leadingSingle upper bytes = .found character rest) : rest.length < bytes.length := by
  unfold leadingSingle at leads
  repeat' split at leads
  all_goals grind [Leading.rest_of_ofCharacter, Leading.rest_of_ofPoint]

/-- More bytes do not change what the bytes begin with, unless these are too few to tell. -/
theorem leading_append {coding : Coding} {bytes : Bytes} (more : Bytes)
    (judged : coding.leading bytes ≠ .unfinished) :
    coding.leading (bytes ++ more) = (coding.leading bytes).extended more := by
  cases coding with
  | utf8 => exact leadingUtf8_append bytes more judged
  | utf16 order => exact leadingUtf16_append order bytes more judged
  | single upper => exact leadingSingle_append upper bytes more judged

/-- A character takes as many bytes at least as one of ASCII does. -/
theorem leading_shrinks {coding : Coding} {bytes rest : Bytes} {character : Char}
    (leads : coding.leading bytes = .found character rest) :
    rest.length + coding.unitWidth ≤ bytes.length := by
  cases coding with
  | utf8 => exact leadingUtf8_shrinks leads
  | utf16 order => exact leadingUtf16_shrinks leads
  | single upper => exact leadingSingle_shrinks leads

theorem unitWidth_pos (coding : Coding) : 0 < coding.unitWidth := by
  cases coding <;> exact Nat.succ_pos _

theorem leading_shorter {coding : Coding} {bytes rest : Bytes} {character : Char}
    (leads : coding.leading bytes = .found character rest) : rest.length < bytes.length :=
  Nat.lt_of_lt_of_le (Nat.lt_add_of_pos_right coding.unitWidth_pos) (leading_shrinks leads)

@[simp]
theorem leading_nil (coding : Coding) : coding.leading [] = .unfinished := by cases coding <;> rfl

theorem decodeUpTo_eq_of_le (coding : Coding) : ∀ (limit others : Nat) (bytes : Bytes),
    bytes.length ≤ limit → bytes.length ≤ others →
      coding.decodeUpTo limit bytes = coding.decodeUpTo others bytes
  | 0, 0, _, _, _ => rfl
  | 0, _ + 1, bytes, short, _ => by
    obtain rfl := List.length_eq_zero_iff.1 (Nat.le_zero.1 short)
    simp only [decodeUpTo, leading_nil]
  | _ + 1, 0, bytes, _, short => by
    obtain rfl := List.length_eq_zero_iff.1 (Nat.le_zero.1 short)
    simp only [decodeUpTo, leading_nil]
  | limit + 1, others + 1, bytes, short, shortToo => by
    simp only [decodeUpTo]
    cases leads : coding.leading bytes with
    | found character rest =>
      have fewer := leading_shorter leads
      simp only
      rw [decodeUpTo_eq_of_le coding limit others rest (by omega) (by omega)]
    | unfinished => rfl
    | invalid => rfl

/-- The characters of bytes, one by one. -/
theorem decode_eq (coding : Coding) (bytes : Bytes) :
    coding.decode bytes = match coding.leading bytes with
      | .found character rest =>
        { coding.decode rest with characters := character :: (coding.decode rest).characters }
      | .unfinished => { characters := [], rest := bytes, valid := true }
      | .invalid => { characters := [], rest := bytes, valid := false } := by
  have limited : coding.decode bytes = coding.decodeUpTo (bytes.length + 1) bytes :=
    decodeUpTo_eq_of_le _ _ _ _ (Nat.le_refl _) (Nat.le_succ _)
  rw [limited, decodeUpTo]
  cases leads : coding.leading bytes with
  | found character rest =>
    have fewer := leading_shorter leads
    simp only
    rw [decodeUpTo_eq_of_le coding bytes.length rest.length rest (by omega) (Nat.le_refl _)]
    rfl
  | unfinished => rfl
  | invalid => rfl

/-- Induction along the characters that bytes make up. -/
@[elab_as_elim]
theorem decode_induction (coding : Coding) {motive : Bytes → Prop}
    (found : ∀ bytes character rest, coding.leading bytes = .found character rest →
      motive rest → motive bytes)
    (unfinished : ∀ bytes, coding.leading bytes = .unfinished → motive bytes)
    (invalid : ∀ bytes, coding.leading bytes = .invalid → motive bytes) (bytes : Bytes) :
    motive bytes :=
  match leads : coding.leading bytes with
  | .found character rest =>
    found bytes character rest leads (decode_induction coding found unfinished invalid rest)
  | .unfinished => unfinished bytes leads
  | .invalid => invalid bytes leads
termination_by bytes.length
decreasing_by exact leading_shorter leads

/-- Bytes can be decoded in two parts, of which the second begins with what is left of the first. -/
theorem decode_append {coding : Coding} {bytes : Bytes} (more : Bytes)
    (valid : (coding.decode bytes).valid = true) :
    coding.decode (bytes ++ more) =
      { coding.decode ((coding.decode bytes).rest ++ more) with
        characters := (coding.decode bytes).characters ++
          (coding.decode ((coding.decode bytes).rest ++ more)).characters } := by
  induction bytes using decode_induction coding with
  | found bytes character rest leads inductionHypothesis =>
    have settled := leading_append more (by rw [leads]; nofun)
    rw [decode_eq coding bytes, leads] at valid ⊢
    rw [decode_eq coding (bytes ++ more), settled, leads]
    simp only [Leading.extended, inductionHypothesis valid, List.cons_append]
  | unfinished bytes leads =>
    rw [decode_eq coding bytes, leads]
    rfl
  | invalid bytes leads =>
    rw [decode_eq coding bytes, leads] at valid
    exact nomatch valid

/-- Behind an invalid byte nothing is decoded. -/
theorem decode_append_invalid {coding : Coding} {bytes : Bytes} (more : Bytes)
    (invalid : (coding.decode bytes).valid = false) :
    coding.decode (bytes ++ more) =
      { coding.decode bytes with rest := (coding.decode bytes).rest ++ more } := by
  induction bytes using decode_induction coding with
  | found bytes character rest leads inductionHypothesis =>
    have settled := leading_append more (by rw [leads]; nofun)
    rw [decode_eq coding bytes, leads] at invalid ⊢
    rw [decode_eq coding (bytes ++ more), settled, leads]
    simp only [Leading.extended, inductionHypothesis invalid]
  | unfinished bytes leads =>
    rw [decode_eq coding bytes, leads] at invalid
    exact nomatch invalid
  | invalid bytes leads =>
    have settled := leading_append more (by rw [leads]; nofun)
    rw [decode_eq coding bytes, leads, decode_eq coding (bytes ++ more), settled, leads]
    rfl

/-- The characters take as many bytes at least as those of ASCII would. -/
theorem length_characters (coding : Coding) (bytes : Bytes) :
    coding.unitWidth * (coding.decode bytes).characters.length ≤ bytes.length := by
  induction bytes using decode_induction coding with
  | found bytes character rest leads inductionHypothesis =>
    have shrinks := leading_shrinks leads
    rw [decode_eq, leads]
    simp only [List.length_cons, Nat.mul_succ]
    omega
  | unfinished bytes leads => simp [decode_eq coding bytes, leads]
  | invalid bytes leads => simp [decode_eq coding bytes, leads]

end Coding

/-! ### The declaration -/

namespace Preamble

theorem throughEnd?_append {text through : List Char} (more : List Char)
    (ends : throughEnd? text = some through) : throughEnd? (text ++ more) = some through := by
  fun_induction throughEnd? text generalizing through with
  | case1 => exact nomatch ends
  | case2 rest => exact ends
  | case3 character rest noEnd inductionHypothesis =>
    obtain ⟨further, endsBehind, rfl⟩ := Option.map_eq_some_iff.1 ends
    rw [List.cons_append, throughEnd?, inductionHypothesis endsBehind]
    · rfl
    · rintro behind mark closes
      cases rest with
      | nil => exact nomatch endsBehind
      | cons second others => exact noEnd others mark (by rw [List.head_eq_of_cons_eq closes])

theorem length_throughEnd? {text through : List Char} (ends : throughEnd? text = some through) :
    through.length + 2 ≤ text.length := by
  fun_induction throughEnd? text generalizing through with
  | case1 => exact nomatch ends
  | case2 rest =>
    cases ends
    simp
  | case3 character rest noEnd inductionHypothesis =>
    obtain ⟨further, endsBehind, rfl⟩ := Option.map_eq_some_iff.1 ends
    have shorter := inductionHypothesis endsBehind
    simp only [List.length_cons] at shorter ⊢
    omega

/-- After the opening of a declaration its end has to come. -/
theorem beginning_opening (behind : List Char) :
    beginning (opening ++ behind) = match behind with
      | [] => .unfinished
      | first :: rest =>
        if isSpace first || first = '?' then match throughEnd? (first :: rest) with
          | some text => .declaration text
          | none => .unfinished
        else .undeclared := by
  have opens : opening.isPrefixOf (opening ++ behind) = true :=
    List.isPrefixOf_iff_prefix.2 (List.prefix_append _ _)
  have dropped : (opening ++ behind).drop opening.length = behind := List.drop_left
  rw [beginning, if_pos opens]
  generalize (opening ++ behind).drop opening.length = rest at dropped ⊢
  subst dropped
  rfl

/-- A document that begins otherwise has no declaration. -/
theorem beginning_of_not_opening {characters : List Char} (differs : ¬opening <+: characters)
    (enough : ¬characters <+: opening) : beginning characters = .undeclared := by
  rw [beginning, if_neg (mt List.isPrefixOf_iff_prefix.1 differs),
    if_neg (mt List.isPrefixOf_iff_prefix.1 enough)]

/-- How a document begins is settled by the first characters that tell it. -/
theorem beginning_append {characters : List Char} (more : List Char)
    (told : beginning characters ≠ .unfinished) :
    beginning (characters ++ more) = beginning characters := by
  by_cases opens : opening <+: characters
  · obtain ⟨behind, rfl⟩ := opens
    rw [List.append_assoc, beginning_opening, beginning_opening]
    rw [beginning_opening] at told
    cases behind with
    | nil => exact absurd rfl told
    | cons first rest =>
      simp only [List.cons_append] at told ⊢
      split
      · rw [if_pos ‹_›] at told
        cases ends : throughEnd? (first :: rest) with
        | some text =>
          have endsToo := throughEnd?_append more ends
          rw [List.cons_append] at endsToo
          rw [endsToo]
        | none => exact absurd (by rw [ends]) told
      · rfl
  · have enough : ¬characters <+: opening := by
      intro short
      rw [beginning, if_neg (mt List.isPrefixOf_iff_prefix.1 opens),
        if_pos (List.isPrefixOf_iff_prefix.2 short)] at told
      exact told rfl
    rw [beginning_of_not_opening opens enough]
    refine beginning_of_not_opening (fun further => ?_) fun short => ?_
    · rcases List.prefix_or_prefix_of_prefix further (List.prefix_append characters more) with
        opensToo | short
      · exact opens opensToo
      · exact enough short
    · exact enough ((List.prefix_append characters more).trans short)

theorem length_beginning {characters text : List Char}
    (begins : beginning characters = .declaration text) :
    opening.length + text.length + 2 ≤ characters.length := by
  by_cases opens : opening <+: characters
  · obtain ⟨behind, rfl⟩ := opens
    rw [beginning_opening] at begins
    split at begins
    · exact nomatch begins
    · split at begins
      · split at begins
        · cases begins
          have shorter := length_throughEnd? ‹_›
          rw [List.length_append]
          omega
        · exact nomatch begins
      · exact nomatch begins
  · rw [beginning, if_neg (mt List.isPrefixOf_iff_prefix.1 opens)] at begins
    split at begins <;> exact nomatch begins

/-- More bytes add characters, and they add none where a byte is invalid. -/
theorem characters_append (coding : Coding) (bytes more : Bytes) :
    ∃ further, (coding.decode (bytes ++ more)).characters =
        (coding.decode bytes).characters ++ further ∧
      ((coding.decode bytes).valid = false →
        further = [] ∧ (coding.decode (bytes ++ more)).valid = false) := by
  cases valid : (coding.decode bytes).valid with
  | true => exact ⟨_, by rw [Coding.decode_append more valid], nofun⟩
  | false =>
    refine ⟨[], ?_, fun _ => ⟨rfl, ?_⟩⟩ <;> rw [Coding.decode_append_invalid more valid]
    · exact (List.append_nil _).symm
    · exact valid

/-- A preamble that is complete, or defective, stays so when more bytes follow. -/
theorem read_append (coding : Coding) (bytes more : Bytes) :
    read coding bytes = .ok none ∨ read coding (bytes ++ more) =
      (read coding bytes).map (Option.map fun preamble =>
        { preamble with rest := preamble.rest ++ more }) := by
  obtain ⟨further, adds, stops⟩ := characters_append coding bytes more
  cases begins : beginning (coding.decode bytes).characters with
  | undeclared =>
    have beginsToo := beginning_append further (by rw [begins]; nofun)
    right
    simp only [read, adds, beginsToo, begins]
    rfl
  | unfinished =>
    cases valid : (coding.decode bytes).valid with
    | true =>
      left
      simp only [read, begins, valid, if_true]
    | false =>
      obtain ⟨rfl, invalid⟩ := stops valid
      right
      simp only [read, adds, List.append_nil, begins, valid, invalid]
      rfl
  | declaration text =>
    have beginsToo := beginning_append further (by rw [begins]; nofun)
    have within : coding.unitWidth * (opening.length + text.length + "?>".length) ≤ bytes.length :=
      Nat.le_trans (Nat.mul_le_mul_left _ (length_beginning begins))
        (coding.length_characters bytes)
    right
    simp only [read, adds, beginsToo, begins, List.drop_append_of_le_length within]
    cases declared? text with
    | none => rfl
    | some declared =>
      obtain ⟨encoding?, standalone⟩ := declared
      cases encoding? with
      | none => rfl
      | some name =>
        simp only
        cases declaredCoding coding name <;> rfl

/-! ### The coding -/

/-- The bytes begin with two that are no part of a mark. -/
structure Unmarked (first second : UInt8) (rest : Bytes) : Prop where
  bigEndian : ¬(first = 0xFE ∧ second = 0xFF)
  littleEndian : ¬(first = 0xFF ∧ second = 0xFE)
  utf8 : first = 0xEF ∧ second = 0xBB → ∃ third behind, rest = third :: behind ∧ third ≠ 0xBF

theorem Unmarked.append {first second : UInt8} {rest : Bytes}
    (unmarked : Unmarked first second rest)
    (more : Bytes) : Unmarked first second (rest ++ more) where
  bigEndian := unmarked.bigEndian
  littleEndian := unmarked.littleEndian
  utf8 marked := by
    obtain ⟨third, behind, rfl, differs⟩ := unmarked.utf8 marked
    exact ⟨third, behind ++ more, rfl, differs⟩

theorem detect?_of_unmarked {first second : UInt8} {rest : Bytes}
    (unmarked : Unmarked first second rest) :
    detect? (first :: second :: rest) =
      some (if first = 0 then .utf16 .bigEndian
        else if second = 0 then .utf16 .littleEndian else .utf8, first :: second :: rest) := by
  obtain ⟨noBig, noLittle, noUtf8⟩ := unmarked
  rw [detect?] <;> grind

/-- The coding that the first bytes tell stays the same unless a single one has told it and the next
one is zero: then two bytes make up a unit. -/
theorem detect?_append {bytes rest : Bytes} {coding : Coding} (more : Bytes)
    (told : detect? bytes = some (coding, rest))
    (enough : bytes.length = 1 → more.head? ≠ some 0) :
    detect? (bytes ++ more) = some (coding, rest ++ more) := by
  match bytes with
  | [] => exact nomatch told
  | [byte] =>
    rw [detect?] at told
    split at told
    · exact nomatch told
    · cases told
      have plain : byte ∉ [0xFE, 0xFF, 0xEF, 0x00, 0x3C] := fun member =>
        absurd (List.contains_iff_mem.2 member) ‹_›
      cases more with
      | nil => exact if_neg ‹_›
      | cons second behind =>
        have unmarked : Unmarked byte second behind :=
          ⟨fun marked => plain (by simp [marked.1]), fun marked => plain (by simp [marked.1]),
            fun marked => absurd (by simp [marked.1]) plain⟩
        have notZero : byte ≠ 0 := fun zero => plain (by simp [zero])
        have notZeroToo : second ≠ 0 := fun zero => enough rfl (by rw [zero]; rfl)
        rw [List.cons_append, List.nil_append, detect?_of_unmarked unmarked, if_neg notZero,
          if_neg notZeroToo]
  | first :: second :: behind =>
    by_cases big : first = 0xFE ∧ second = 0xFF
    · obtain ⟨rfl, rfl⟩ := big
      cases told
      rfl
    by_cases little : first = 0xFF ∧ second = 0xFE
    · obtain ⟨rfl, rfl⟩ := little
      cases told
      rfl
    by_cases marked : first = 0xEF ∧ second = 0xBB ∧ (behind = [] ∨ behind.head? = some 0xBF)
    · obtain ⟨rfl, rfl, rfl | third⟩ := marked
      · exact nomatch told
      · obtain ⟨others, rfl⟩ := List.head?_eq_some_iff.1 third
        cases told
        rfl
    have unmarked : Unmarked first second behind := ⟨big, little, fun start => by
      cases behind with
      | nil => exact absurd ⟨start.1, start.2, .inl rfl⟩ marked
      | cons third others =>
        exact ⟨third, others, rfl, fun same => marked ⟨start.1, start.2, .inr (by rw [same]; rfl)⟩⟩⟩
    rw [detect?_of_unmarked unmarked] at told
    cases told
    exact detect?_of_unmarked (unmarked.append more)

end Preamble

end ApiDoc.Xml
