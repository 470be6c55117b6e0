/-
This file proves that the preamble of a document is read as it was written: the mark of its encoding
and its declaration are told from the document itself, and the declaration says what was meant.
-/
import ApiDoc.Proofs.Utf8Decoding
import ApiDoc.Proofs.WrittenTags

namespace ApiDoc.Xml.Written

open Preamble

/-! ### Items -/

namespace Item

theorem isProper_iff (item : Item) : item.isProper = true ↔
    item.gap ≠ [] ∧ areSpaces item.gap = true ∧ areSpaces item.before = true ∧
      areSpaces item.behind = true ∧ isMark item.mark = true ∧
      ∀ character ∈ item.value, isValueCharacter character = true := by
  simp [isProper, and_assoc, List.all_eq_true]

theorem text_append (name : String) (item : Item) (rest : List Char) :
    item.text name ++ rest = item.gap ++ (name.toList ++ (item.before ++ '=' :: (item.behind ++
      item.mark :: (item.value ++ item.mark :: rest)))) := by
  simp [text]

theorem isValueCharacter_of_mark {mark : Char} (marks : isMark mark = true) :
    isValueCharacter mark = false := by
  simp only [isMark, Bool.or_eq_true, decide_eq_true_eq] at marks
  rcases marks with rfl | rfl <;> decide

/-- An item whose name begins with no space is found with its value. -/
theorem item_append {name : String} {first : Char} {letters : List Char}
    (named : name.toList = first :: letters) (visible : isSpace first = false) {item : Item}
    (proper : item.isProper = true) (rest : List Char) :
    Preamble.item name (item.text name ++ rest) = .found item.value rest := by
  obtain ⟨given, blank, blankBefore, blankBehind, marks, valid⟩ := item.isProper_iff.1 proper
  rw [text_append]
  have stops : Stops isSpace (name.toList ++ (item.before ++ '=' :: (item.behind ++
      item.mark :: (item.value ++ item.mark :: rest)))) := by
    rw [named]
    exact stops_cons visible _
  refine (Scanner.bind_of_found (Scanner.takeWhile_append (isSpace_of_mem blank) stops)).trans ?_
  rw [if_neg (by simpa using given)]
  refine (Scanner.bind_of_found (Scanner.expectAll_append name.toList _)).trans ?_
  refine (Scanner.bind_of_found
    (skipSpaces_append blankBefore (stops_cons (by decide) _))).trans ?_
  refine (Scanner.bind_of_found (Scanner.expect_cons '=' _)).trans ?_
  refine (Scanner.bind_of_found
    (skipSpaces_append blankBehind (stops_cons (Attribution.notSpace_of_mark marks) _))).trans ?_
  refine (Scanner.bind_of_found (Scanner.next_cons item.mark _)).trans ?_
  rw [if_pos (show (item.mark = '"' || item.mark = '\x27') = true from marks)]
  refine (Scanner.bind_of_found (Scanner.takeWhile_append valid
    (stops_cons (isValueCharacter_of_mark marks) rest))).trans ?_
  exact Scanner.bind_of_found (Scanner.expect_cons item.mark rest)

theorem optionalItem_append {name : String} {first : Char} {letters : List Char}
    (named : name.toList = first :: letters) (visible : isSpace first = false) {item : Item}
    (proper : item.isProper = true) (rest : List Char) :
    optionalItem name (item.text name ++ rest) = (some item.value, rest) := by
  rw [optionalItem, item_append named visible proper]

/-- An item whose name begins otherwise is left for later. -/
theorem optionalItem_other {name other : String} {first second : Char} {letters others : List Char}
    (named : name.toList = first :: letters) (namedToo : other.toList = second :: others)
    (visible : isSpace second = false) (differs : second ≠ first) {item : Item}
    (proper : item.isProper = true) (rest : List Char) :
    optionalItem name (item.text other ++ rest) = (none, item.text other ++ rest) := by
  obtain ⟨given, blank, -⟩ := item.isProper_iff.1 proper
  have refused : Preamble.item name (item.text other ++ rest) = .malformed := by
    rw [text_append, namedToo]
    refine (Scanner.bind_of_found (Scanner.takeWhile_append (isSpace_of_mem blank)
      (stops_cons visible _))).trans ?_
    rw [if_neg (by simpa using given), named]
    exact Scanner.bind_of_malformed (Scanner.expectAll_of_ne differs _ _)
  rw [optionalItem, refused]

/-- White space alone is no item. -/
theorem optionalItem_spaces (name : String) {spaces : List Char} (blank : areSpaces spaces = true) :
    optionalItem name spaces = (none, spaces) := by
  have missing : Preamble.item name spaces = .unfinished :=
    Scanner.bind_of_unfinished (Scanner.takeWhile_all (isSpace_of_mem blank))
  rw [optionalItem, missing]

end Item

/-! ### Declarations -/

/-- A character that may stand within a declaration: one of ASCII, and none with which it ends. -/
def isPlain (character : Char) : Bool := character.toNat < 0x80 && character ≠ '?'

theorem isPlain_of_isSpace {character : Char} (space : isSpace character = true) :
    isPlain character = true := by
  simp only [isSpace, Bool.or_eq_true, decide_eq_true_eq] at space
  rcases space with ((rfl | rfl) | rfl) | rfl <;> decide

theorem isPlain_of_isMark {character : Char} (marks : isMark character = true) :
    isPlain character = true := by
  simp only [isMark, Bool.or_eq_true, decide_eq_true_eq] at marks
  rcases marks with rfl | rfl <;> decide

theorem isPlain_of_isValueCharacter {character : Char} (valid : isValueCharacter character = true) :
    isPlain character = true := by
  simp only [isValueCharacter, Bool.or_eq_true] at valid
  rcases valid with alphanumeric | punctuation
  · have notMark : character ≠ '?' := by
      rintro rfl
      exact absurd alphanumeric (by decide)
    unfold Char.isAlphanum Char.isAlpha Char.isUpper Char.isLower Char.isDigit at alphanumeric
    simp only [Bool.or_eq_true, Bool.and_eq_true, decide_eq_true_eq, UInt32.le_iff_toNat_le,
      ge_iff_le, Char.reduceVal, UInt32.reduceToNat] at alphanumeric
    have ascii : character.toNat < 0x80 := by
      simp only [Char.toNat]
      omega
    simp [isPlain, ascii, notMark]
  · simp only [List.contains_eq_mem, List.mem_cons, List.not_mem_nil, or_false,
      decide_eq_true_eq] at punctuation
    rcases punctuation with rfl | rfl | rfl <;> decide

theorem Item.isPlain_text {name : String}
    (plain : ∀ character ∈ name.toList, isPlain character = true)
    {item : Item} (proper : item.isProper = true) :
    ∀ character ∈ item.text name, isPlain character = true := by
  obtain ⟨-, blank, blankBefore, blankBehind, marks, valid⟩ := item.isProper_iff.1 proper
  intro character member
  simp only [text, List.append_assoc, List.mem_append, List.mem_cons, List.not_mem_nil, or_false,
    List.cons_append] at member
  rcases member with gap | named | before | rfl | behind | rfl | value | rfl
  · exact isPlain_of_isSpace (isSpace_of_mem blank character gap)
  · exact plain character named
  · exact isPlain_of_isSpace (isSpace_of_mem blankBefore character before)
  · decide
  · exact isPlain_of_isSpace (isSpace_of_mem blankBehind character behind)
  · exact isPlain_of_isMark marks
  · exact isPlain_of_isValueCharacter (valid character value)
  · exact isPlain_of_isMark marks

theorem isAlpha_of_toUpper {character : Char} (upper : character.toUpper = 'U') :
    character.isAlpha = true := by
  unfold Char.toUpper at upper
  split at upper
  · rename_i lower
    unfold Char.isAlpha Char.isLower
    simp only [Bool.or_eq_true, Bool.and_eq_true, decide_eq_true_eq]
    exact .inr lower
  · rw [upper]
    decide

theorem head_isAlpha {name : List Char} (utf8 : name.map Char.toUpper = "UTF-8".toList) :
    name.head?.any Char.isAlpha = true := by
  cases name with
  | nil => exact absurd utf8 (by decide)
  | cons first others => exact isAlpha_of_toUpper (List.cons.inj utf8).1

namespace Declaration

theorem encoding_named : "encoding".toList = 'e' :: "ncoding".toList := rfl

theorem standalone_named : "standalone".toList = 's' :: "tandalone".toList := rfl

/-- What stands behind the version and the encoding. -/
theorem optionalItem_standalone {standalone? : Option Item} {spaces : List Char}
    (proper : ∀ item ∈ standalone?, item.isProper = true) (blank : areSpaces spaces = true) :
    optionalItem "standalone" (standalone?.elim [] (Item.text "standalone") ++ spaces) =
      (standalone?.map (·.value), spaces) := by
  cases standalone? with
  | none => exact Item.optionalItem_spaces "standalone" blank
  | some item =>
    exact Item.optionalItem_append standalone_named (by decide) (proper item rfl) spaces

/-- What stands behind the version. -/
theorem optionalItem_encoding {encoding? standalone? : Option Item} {spaces : List Char}
    (proper : ∀ item ∈ encoding?, item.isProper = true)
    (properToo : ∀ item ∈ standalone?, item.isProper = true) (blank : areSpaces spaces = true) :
    optionalItem "encoding" (encoding?.elim [] (Item.text "encoding") ++
        (standalone?.elim [] (Item.text "standalone") ++ spaces)) =
      (encoding?.map (·.value), standalone?.elim [] (Item.text "standalone") ++ spaces) := by
  cases encoding? with
  | some item => exact Item.optionalItem_append encoding_named (by decide) (proper item rfl) _
  | none => cases standalone? with
    | none => exact Item.optionalItem_spaces "encoding" blank
    | some item =>
      exact Item.optionalItem_other encoding_named standalone_named (by decide) (by decide)
        (properToo item rfl) spaces

theorem declared?_inside {declaration : Declaration} (wellFormed : declaration.WellFormed) :
    declared? declaration.inside = some (declaration.encoding?.map (·.value),
      decide (declaration.standalone?.map (·.value) = some "yes".toList)) := by
  have version : Preamble.item "version" declaration.inside = .found declaration.version.value
      (declaration.encoding?.elim [] (Item.text "encoding") ++
        (declaration.standalone?.elim [] (Item.text "standalone") ++ declaration.spaces)) := by
    rw [inside, List.append_assoc, List.append_assoc]
    exact Item.item_append (show "version".toList = 'v' :: "ersion".toList from rfl) (by decide)
      wellFormed.version _
  have named : (declaration.encoding?.map (·.value)).all
      (fun name => name.head?.any Char.isAlpha) = true := by
    rw [Option.all_map, Option.all_eq_true]
    exact fun item member => head_isAlpha (wellFormed.encoding item member).2
  have decided : (declaration.standalone?.map (·.value)).all
      (fun value => value = "yes".toList || value = "no".toList) = true := by
    rw [Option.all_map, Option.all_eq_true]
    intro item member
    simpa using (wellFormed.standalone item member).2
  unfold declared?
  simp only [version, optionalItem_standalone (fun item member =>
      (wellFormed.standalone item member).1) wellFormed.spaces,
    optionalItem_encoding (fun item member => (wellFormed.encoding item member).1)
      (fun item member => (wellFormed.standalone item member).1) wellFormed.spaces, named, decided]
  rw [if_pos (by simpa using isSpace_of_mem wellFormed.spaces)]

theorem isPlain_inside {declaration : Declaration} (wellFormed : declaration.WellFormed) :
    ∀ character ∈ declaration.inside, isPlain character = true := by
  have plainItem {name : String} (plain : ∀ character ∈ name.toList, isPlain character = true)
      {item? : Option Item} (proper : ∀ item ∈ item?, item.isProper = true) :
      ∀ character ∈ item?.elim [] (Item.text name), isPlain character = true := by
    cases item? with
    | none => exact fun character member => nomatch member
    | some item => exact Item.isPlain_text plain (proper item rfl)
  intro character member
  simp only [inside, List.mem_append] at member
  rcases member with ((version | encoding) | standalone) | spaces
  · exact Item.isPlain_text (List.all_eq_true.1 (by decide)) wellFormed.version character version
  · exact plainItem (List.all_eq_true.1 (by decide))
      (fun item among => (wellFormed.encoding item among).1) character encoding
  · exact plainItem (List.all_eq_true.1 (by decide))
      (fun item among => (wellFormed.standalone item among).1) character standalone
  · exact isPlain_of_isSpace (isSpace_of_mem wellFormed.spaces character spaces)

theorem throughEnd?_append {text : List Char} (without : '?' ∉ text) (rest : List Char) :
    throughEnd? (text ++ ("?>".toList ++ rest)) = some text := by
  induction text with
  | nil => rfl
  | cons first others inductionHypothesis =>
    obtain ⟨differs, withoutRest⟩ := not_or.1 (mt List.mem_cons.2 without)
    rw [List.cons_append, throughEnd?, inductionHypothesis withoutRest]
    · rfl
    · rintro _ rfl
      exact absurd rfl differs

/-- A declaration is told from its opening to its end. -/
theorem beginning_text {declaration : Declaration} (wellFormed : declaration.WellFormed)
    (rest : List Char) :
    beginning (declaration.text ++ rest) = .declaration declaration.inside := by
  have without : '?' ∉ declaration.inside := fun member =>
    absurd (isPlain_inside wellFormed '?' member) (by decide)
  have ends := throughEnd?_append without rest
  obtain ⟨given, blank, -⟩ := (Item.isProper_iff _).1 wellFormed.version
  obtain ⟨first, gap, same⟩ := List.exists_cons_of_ne_nil given
  have space : isSpace first = true :=
    isSpace_of_mem blank first (by rw [same]; exact List.mem_cons_self ..)
  have begins : ∃ others, declaration.inside = first :: others := by
    simp [inside, Item.text, same]
  obtain ⟨others, begins⟩ := begins
  rw [text, List.append_assoc, List.append_assoc, beginning_opening]
  rw [begins, List.cons_append] at ends ⊢
  simp only [space, Bool.true_or, if_true, ends]

theorem isAscii_text {declaration : Declaration} (wellFormed : declaration.WellFormed) :
    ∀ character ∈ declaration.text, character.toNat < 0x80 := by
  intro character member
  simp only [text, List.mem_append] at member
  rcases member with (opens | inside) | ends
  · have ascii : opening.all (·.toNat < 0x80) = true := by decide
    exact of_decide_eq_true (List.all_eq_true.1 ascii character opens)
  · have plain := isPlain_inside wellFormed character inside
    simp only [isPlain, Bool.and_eq_true, decide_eq_true_eq] at plain
    exact plain.1
  · have ascii : "?>".toList.all (·.toNat < 0x80) = true := by decide
    exact of_decide_eq_true (List.all_eq_true.1 ascii character ends)

/-- A document that declares its charset is one in UTF-8. -/
theorem declaredCoding_encoding {declaration : Declaration} (wellFormed : declaration.WellFormed) :
    ∀ item ∈ declaration.encoding?, declaredCoding .utf8 item.value = .ok .utf8 := by
  intro item member
  have wanted : String.ofList (item.value.map Char.toUpper) = "UTF-8" := by
    rw [(wellFormed.encoding item member).2, String.ofList_toList]
  simp only [declaredCoding, wanted, if_true]
  rfl

/-- Behind a declaration the document goes on. -/
theorem read_text {declaration : Declaration} (wellFormed : declaration.WellFormed)
    {body : List Char}
    (allowed : ∀ character ∈ declaration.text ++ body, isAllowed character = true) :
    ∃ standalone, Preamble.read .utf8 (Utf8.encode ((declaration.text ++ body).map .char)) =
      .ok (some { coding := .utf8, standalone, rest := Utf8.encode (body.map .char) }) := by
  have behind := Utf8.drop_encode_ascii (isAscii_text wellFormed) body
  have length : declaration.text.length =
      Coding.utf8.unitWidth * (opening.length + declaration.inside.length + "?>".length) := by
    simp [text, Coding.unitWidth, Nat.add_assoc]
    rfl
  unfold Preamble.read
  rw [Coding.decode_encode allowed]
  simp only [beginning_text wellFormed, declared?_inside wellFormed, ← length, behind]
  cases given : declaration.encoding? with
  | none => exact ⟨_, rfl⟩
  | some item =>
    simp only [Option.map_some, declaredCoding_encoding wellFormed item given]
    exact ⟨_, rfl⟩

end Declaration

/-! ### Documents without a declaration -/

/-- A text begins with two characters that tell that no declaration begins there. -/
structure Undeclared (text : List Char) : Prop where
  undeclared : beginning text = .undeclared
  enough : ∃ first second rest, text = first :: second :: rest ∧ first.toNat < 0x80

namespace Undeclared

theorem opening_eq : opening = '<' :: '?' :: "xml".toList := rfl

theorem of_space {character : Char} (space : isSpace character = true) {rest : List Char}
    (given : rest ≠ []) : Undeclared (character :: rest) where
  undeclared := by
    have differs : character ≠ '<' := by
      rintro rfl
      exact absurd space (by decide)
    refine beginning_of_not_opening ?_ ?_
    · rw [opening_eq, List.cons_prefix_cons]
      exact fun same => differs same.1.symm
    · rw [opening_eq, List.cons_prefix_cons]
      exact fun same => differs same.1
  enough := by
    obtain ⟨second, others, rfl⟩ := List.exists_cons_of_ne_nil given
    have plain := isPlain_of_isSpace space
    simp only [isPlain, Bool.and_eq_true, decide_eq_true_eq] at plain
    exact ⟨character, second, others, rfl, plain.1⟩

theorem of_second {second : Char} (differs : second ≠ '?') (rest : List Char) :
    Undeclared ('<' :: second :: rest) where
  undeclared := by
    refine beginning_of_not_opening ?_ ?_
    · rw [opening_eq, List.cons_prefix_cons, List.cons_prefix_cons]
      exact fun same => differs same.2.1.symm
    · rw [opening_eq, List.cons_prefix_cons, List.cons_prefix_cons]
      exact fun same => differs same.2.1
  enough := ⟨'<', second, rest, rfl, by decide⟩

/-- The target of an instruction is not that of a declaration, though it may begin like this. -/
theorem of_target {target : List Char} (named : isName target = true)
    (allowed : target ≠ "xml".toList) {behind : List Char} (stops : Stops isNameCharacter behind)
    (ends : '?' ∈ behind) : Undeclared ('<' :: '?' :: (target ++ behind)) where
  undeclared := by
    obtain ⟨stop, others, rfl, refused⟩ := stops
    by_cases opens : "xml".toList <+: target
    · obtain ⟨more, rfl⟩ := opens
      cases more with
      | nil => exact absurd (List.append_nil _) allowed
      | cons first more =>
        have goesOn : isNameCharacter first = true := by
          by_contra other
          exact not_mem_of_isName named (Bool.eq_false_iff.2 other)
            (List.mem_append_right _ (List.mem_cons_self ..))
        have visible := isSpace_of_isNameCharacter goesOn
        have noEnd : first ≠ '?' := by
          rintro rfl
          exact absurd goesOn (by decide)
        rw [List.append_assoc]
        refine (beginning_opening (first :: more ++ stop :: others)).trans ?_
        rw [List.cons_append]
        simp only [visible, noEnd, Bool.false_or, decide_false, Bool.false_eq_true, if_false]
    · refine beginning_of_not_opening ?_ ?_
      · rw [opening_eq, List.cons_prefix_cons, List.cons_prefix_cons]
        rintro ⟨-, -, within⟩
        rcases List.prefix_or_prefix_of_prefix within (List.prefix_append target _) with
          begins | ⟨missing, same⟩
        · exact opens begins
        cases missing with
        | nil => exact allowed (by rw [← same, List.append_nil])
        | cons next missing =>
          -- The name goes on in "xml" where it stops in the text.
          rw [← same, List.prefix_append_right_inj, List.cons_prefix_cons] at within
          have letters : "xml".toList.all isNameCharacter = true := by decide
          have goesOn := List.all_eq_true.1 letters next (by
            rw [← same]
            exact List.mem_append_right _ (List.mem_cons_self ..))
          rw [within.1, refused] at goesOn
          exact nomatch goesOn
      · rw [opening_eq, List.cons_prefix_cons, List.cons_prefix_cons]
        rintro ⟨-, -, within⟩
        exact absurd (within.subset (List.mem_append_right _ ends)) (by decide)
  enough := ⟨'<', '?', target ++ behind, rfl, by decide⟩

end Undeclared

end ApiDoc.Xml.Written
