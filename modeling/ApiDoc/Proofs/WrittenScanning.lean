/-
This file proves that the scanner of markup finds what was written. Each construct of a document
that is written as it should be is taken off the front of whatever stands behind it, and the scanner
yields it whole; where a construct ends only at a character of another class, such a character has
to follow.
-/
import ApiDoc.Proofs.SteadyMarkup
import ApiDoc.Xml.Written

namespace ApiDoc.Xml

/-! ### Scanners in a row -/

/-- The text begins with a character that is not of the class. -/
def Stops (accepts : Char → Bool) (text : List Char) : Prop :=
  ∃ first rest, text = first :: rest ∧ accepts first = false

theorem stops_cons {accepts : Char → Bool} {first : Char} (refused : accepts first = false)
    (rest : List Char) : Stops accepts (first :: rest) := ⟨first, rest, rfl, refused⟩

/-- What stands before the stop may be missing. -/
theorem Stops.after {accepts : Char → Bool} {text : List Char} (stops : Stops accepts text)
    {before : List Char} (refused : ∀ character ∈ before, accepts character = false) :
    Stops accepts (before ++ text) := by
  cases before with
  | nil => exact stops
  | cons first rest => exact stops_cons (refused first (List.mem_cons_self ..)) _

namespace Scanner

variable {α β : Type}

theorem bind_of_found {first : Scanner α} {next : α → Scanner β} {text rest : List Char} {item : α}
    (taken : first text = .found item rest) : (first >>= next) text = next item rest := by
  rw [bind_apply, taken]

theorem bind_of_unfinished {first : Scanner α} {next : α → Scanner β} {text : List Char}
    (waits : first text = .unfinished) : (first >>= next) text = .unfinished := by
  rw [bind_apply, waits]

theorem bind_of_malformed {first : Scanner α} {next : α → Scanner β} {text : List Char}
    (refused : first text = .malformed) : (first >>= next) text = .malformed := by
  rw [bind_apply, refused]

theorem next_cons (first : Char) (rest : List Char) :
    next (first :: rest) = .found first rest := rfl

theorem peek_cons (first : Char) (rest : List Char) :
    peek (first :: rest) = .found first (first :: rest) := rfl

theorem takeWhile_append {accepts : Char → Bool} {characters rest : List Char}
    (accepted : ∀ character ∈ characters, accepts character = true) (stops : Stops accepts rest) :
    takeWhile accepts (characters ++ rest) = .found characters rest := by
  unfold takeWhile
  induction characters with
  | nil =>
    obtain ⟨first, others, rfl, refused⟩ := stops
    simp [run, refused]
  | cons first others inductionHypothesis =>
    rw [List.cons_append, run, if_pos (accepted first (List.mem_cons_self ..)),
      inductionHypothesis fun character member =>
        accepted character (List.mem_cons_of_mem _ member)]

/-- Characters go on as long as there are no others. -/
theorem takeWhile_all {accepts : Char → Bool} {text : List Char}
    (accepted : ∀ character ∈ text, accepts character = true) :
    takeWhile accepts text = .unfinished := by
  unfold takeWhile
  induction text with
  | nil => rfl
  | cons first rest inductionHypothesis =>
    rw [run, if_pos (accepted first (List.mem_cons_self ..)),
      inductionHypothesis fun character member =>
        accepted character (List.mem_cons_of_mem _ member)]

theorem expect_cons (wanted : Char) (rest : List Char) :
    expect wanted (wanted :: rest) = .found () rest := by
  refine (bind_of_found (next_cons wanted rest)).trans ?_
  rw [if_pos rfl]
  rfl

theorem expectAll_append (wanted rest : List Char) :
    expectAll wanted (wanted ++ rest) = .found () rest := by
  induction wanted with
  | nil => rfl
  | cons first others inductionHypothesis =>
    exact (bind_of_found (expect_cons first _)).trans inductionHypothesis

theorem take_append (taken rest : List Char) :
    take taken.length (taken ++ rest) = .found taken rest := by
  induction taken with
  | nil => rfl
  | cons first others inductionHypothesis =>
    refine (bind_of_found (next_cons first _)).trans ?_
    exact (bind_of_found inductionHypothesis).trans rfl

theorem expectTogether_append (wanted rest : List Char) :
    expectTogether wanted (wanted ++ rest) = .found () rest := by
  refine (bind_of_found (take_append wanted rest)).trans ?_
  rw [if_pos rfl]
  rfl

theorem expectAll_of_ne {wanted first : Char} (differs : first ≠ wanted)
    (others rest : List Char) : expectAll (wanted :: others) (first :: rest) = .malformed := by
  refine bind_of_malformed ((bind_of_found (next_cons first rest)).trans ?_)
  rw [if_neg differs]
  rfl

/-! ### Rounds -/

theorem rounds_of_last {round : Scanner (Round α β)} {text rest : List Char} {last : β}
    (taken : round text = .found (.last last) rest) :
    rounds round text = .found ([], last) rest := by
  unfold rounds roundsUpTo
  exact bind_of_found taken

/-- A round that is not the last is followed by those of the rest. -/
theorem rounds_of_item {round : Scanner (Round α β)} (advances : Advances round)
    {text middle rest : List Char} {item : α} {others : List α} {last : β}
    (taken : round text = .found (.item item) middle)
    (further : rounds round middle = .found (others, last) rest) :
    rounds round text = .found (item :: others, last) rest := by
  have fewer := advances _ _ _ taken
  have limited : roundsUpTo round text middle = .found (others, last) rest :=
    (roundsUpTo_eq_of_lt advances _ _ _ fewer (by simp)).trans further
  unfold rounds roundsUpTo
  refine (bind_of_found taken).trans ?_
  exact bind_of_found limited

end Scanner

/-! ### Names and white space -/

/-- The characters of white space are no characters of words. -/
theorem isWordCharacter_of_isSpace {character : Char} (space : isSpace character = true) :
    Doctype.Token.isWordCharacter character = false := by
  simp only [isSpace, Bool.or_eq_true, decide_eq_true_eq] at space
  rcases space with ((rfl | rfl) | rfl) | rfl <;> decide

theorem isNameCharacter_of_word {character : Char}
    (other : Doctype.Token.isWordCharacter character = false) :
    isNameCharacter character = false := by
  simp only [Doctype.Token.isWordCharacter, Bool.or_eq_false_iff] at other
  exact other.1

theorem isSpace_of_isNameCharacter {character : Char} (named : isNameCharacter character = true) :
    isSpace character = false := by
  cases space : isSpace character with
  | false => rfl
  | true =>
    rw [isNameCharacter_of_word (isWordCharacter_of_isSpace space)] at named
    exact nomatch named

theorem isNameCharacter_of_isNameStart {character : Char} (starts : isNameStart character = true) :
    isNameCharacter character = true := by
  rw [isNameCharacter, starts, Bool.true_or]

namespace Written

theorem isSpace_of_mem {spaces : List Char} (blank : areSpaces spaces = true) :
    ∀ character ∈ spaces, isSpace character = true := List.all_eq_true.1 blank

theorem skipSpaces_append {spaces rest : List Char} (blank : areSpaces spaces = true)
    (stops : Stops isSpace rest) : Scanner.skipSpaces (spaces ++ rest) = .found () rest :=
  Scanner.bind_of_found (Scanner.takeWhile_append (isSpace_of_mem blank) stops)

/-- A name is a first character and others. -/
theorem exists_of_isName {name : List Char} (proper : isName name = true) :
    ∃ first rest, name = first :: rest ∧ isNameStart first = true ∧
      ∀ character ∈ rest, isNameCharacter character = true := by
  cases name with
  | nil => exact nomatch proper
  | cons first rest =>
    simp only [isName, Bool.and_eq_true, List.all_eq_true] at proper
    exact ⟨first, rest, rfl, proper.1, proper.2⟩

theorem name_append {name rest : List Char} (proper : isName name = true)
    (stops : Stops isNameCharacter rest) : Scanner.name (name ++ rest) = .found name rest := by
  obtain ⟨first, others, rfl, starts, goesOn⟩ := exists_of_isName proper
  refine (Scanner.bind_of_found (Scanner.next_cons first (others ++ rest))).trans ?_
  rw [if_pos starts]
  exact Scanner.bind_of_found (Scanner.takeWhile_append goesOn stops)

theorem Label.isProper_iff (label : Label) : label.isProper = true ↔
    (∀ qualifier ∈ label.qualifier?, isName qualifier = true) ∧ isName label.localName = true := by
  simp [isProper, Option.all_eq_true]

/-- A name with or without a namespace is a first character and others. -/
theorem Label.exists_of_isProper {label : Label} (proper : label.isProper = true) :
    ∃ first rest, label.text = first :: rest ∧ isNameStart first = true ∧
      ∀ character ∈ rest, Doctype.Token.isWordCharacter character = true := by
  obtain ⟨qualifier?, localName⟩ := label
  obtain ⟨properQualifier, properLocal⟩ := (Label.isProper_iff _).1 proper
  obtain ⟨first, rest, rfl, starts, goesOn⟩ := exists_of_isName properLocal
  have word {character : Char} (named : isNameCharacter character = true) :
      Doctype.Token.isWordCharacter character = true := by
    rw [Doctype.Token.isWordCharacter, named, Bool.true_or]
  cases qualifier? with
  | none => exact ⟨first, rest, rfl, starts, fun character member => word (goesOn character member)⟩
  | some qualifier =>
    obtain ⟨initial, others, rfl, startsToo, goesOnToo⟩ := exists_of_isName (properQualifier _ rfl)
    refine ⟨initial, others ++ ':' :: first :: rest, rfl, startsToo, fun character member => ?_⟩
    rcases List.mem_append.1 member with inQualifier | inLocal
    · exact word (goesOnToo character inQualifier)
    rcases List.mem_cons.1 inLocal with rfl | inLocal
    · rfl
    rcases List.mem_cons.1 inLocal with rfl | inLocal
    · exact word (isNameCharacter_of_isNameStart starts)
    · exact word (goesOn character inLocal)

theorem stops_name_of_word {text : List Char} (stops : Stops Doctype.Token.isWordCharacter text) :
    Stops isNameCharacter text := by
  obtain ⟨first, rest, rfl, other⟩ := stops
  exact stops_cons (isNameCharacter_of_word other) rest

theorem qualifiedName_append {label : Label} {rest : List Char} (proper : label.isProper = true)
    (stops : Stops Doctype.Token.isWordCharacter rest) :
    Scanner.qualifiedName (label.text ++ rest) = .found label.text rest := by
  obtain ⟨qualifier?, localName⟩ := label
  obtain ⟨properQualifier, properLocal⟩ := (Label.isProper_iff _).1 proper
  cases qualifier? with
  | none =>
    refine (Scanner.bind_of_found (name_append properLocal (stops_name_of_word stops))).trans ?_
    obtain ⟨first, others, rfl, other⟩ := stops
    refine (Scanner.bind_of_found (Scanner.peek_cons first others)).trans ?_
    rw [if_neg]
    · rfl
    · rintro rfl
      exact nomatch other
  | some qualifier =>
    have stopsAtColon : Stops isNameCharacter (':' :: (localName ++ rest)) :=
      stops_cons (by decide) _
    have same : Label.text ⟨some qualifier, localName⟩ ++ rest =
        qualifier ++ ':' :: (localName ++ rest) := by simp [Label.text]
    rw [same]
    refine (Scanner.bind_of_found (name_append (properQualifier _ rfl) stopsAtColon)).trans ?_
    refine (Scanner.bind_of_found (Scanner.peek_cons ':' (localName ++ rest))).trans ?_
    rw [if_pos rfl]
    refine (Scanner.bind_of_found (Scanner.expect_cons ':' _)).trans ?_
    exact Scanner.bind_of_found (name_append properLocal (stops_name_of_word stops))

/-! ### References and values -/

namespace Sign

/-- The reference that a sign is, if it is not the character itself. -/
def reference? : Sign → Option Reference
  | .plain _ => none
  | .decimal digits => some (.number (Reference.valueOf 10 digits))
  | .hexadecimal digits => some (.number (Reference.valueOf 16 digits))
  | .named name => some (.name name)

/-- The piece of a value that a sign is. -/
def piece : Sign → Piece
  | .plain character => .plain character
  | .decimal digits => .referred (.number (Reference.valueOf 10 digits))
  | .hexadecimal digits => .referred (.number (Reference.valueOf 16 digits))
  | .named name => .referred (.name name)

theorem scanNumber_append {base : Nat} {digits : List Char} (proper : areDigits base digits = true)
    (semicolon : Reference.digit? base ';' = none) (rest : List Char) :
    Reference.scanNumber base (digits ++ ';' :: rest) =
      .found (.number (Reference.valueOf base digits)) rest := by
  simp only [areDigits, Bool.and_eq_true, List.all_eq_true] at proper
  have stops : Stops (fun character => (Reference.digit? base character).isSome) (';' :: rest) :=
    stops_cons (by rw [semicolon]; rfl) rest
  refine (Scanner.bind_of_found (Scanner.takeWhile_append proper.2 stops)).trans ?_
  rw [if_neg (by simpa using proper.1)]
  exact Scanner.bind_of_found (Scanner.expect_cons ';' rest)

theorem isName_of_predefined {name : List Char}
    (known : (Reference.predefined? name).isSome = true) :
    isName name = true := by
  unfold Reference.predefined? at known
  repeat' split at known
  any_goals subst_vars; decide
  exact nomatch known

/-- A reference to a character by its number, whose ampersand is taken. -/
theorem scan_decimal {digits : List Char} (proper : areDigits 10 digits = true) (rest : List Char) :
    Reference.scan ('#' :: digits ++ ';' :: rest) =
      .found (.number (Reference.valueOf 10 digits)) rest := by
  have scanned := scanNumber_append proper (by decide) rest
  cases digits with
  | nil => exact nomatch proper
  | cons first others =>
    have notHexadecimal : first ≠ 'x' := by
      rintro rfl
      simp [areDigits, Reference.digit?] at proper
    refine (Scanner.bind_of_found (Scanner.peek_cons _ _)).trans ?_
    rw [if_pos rfl]
    refine (Scanner.bind_of_found (Scanner.expect_cons '#' _)).trans ?_
    refine (Scanner.bind_of_found (Scanner.peek_cons _ _)).trans ?_
    rw [if_neg notHexadecimal]
    exact scanned

theorem scan_hexadecimal {digits : List Char} (proper : areDigits 16 digits = true)
    (rest : List Char) :
    Reference.scan ('#' :: 'x' :: digits ++ ';' :: rest) =
      .found (.number (Reference.valueOf 16 digits)) rest := by
  refine (Scanner.bind_of_found (Scanner.peek_cons _ _)).trans ?_
  rw [if_pos rfl]
  refine (Scanner.bind_of_found (Scanner.expect_cons '#' _)).trans ?_
  refine (Scanner.bind_of_found (Scanner.peek_cons _ _)).trans ?_
  rw [if_pos rfl]
  refine (Scanner.bind_of_found (Scanner.expect_cons 'x' _)).trans ?_
  exact scanNumber_append proper (by decide) rest

theorem scan_named {name : List Char} (proper : isName name = true) (rest : List Char) :
    Reference.scan (name ++ ';' :: rest) = .found (.name name) rest := by
  have stops : Stops isNameCharacter (';' :: rest) := stops_cons (by decide) _
  have named := name_append proper stops
  obtain ⟨first, others, rfl, starts, -⟩ := exists_of_isName proper
  have notNumber : first ≠ '#' := by
    rintro rfl
    exact absurd starts (by decide)
  refine (Scanner.bind_of_found (Scanner.peek_cons _ _)).trans ?_
  rw [if_neg notNumber]
  refine (Scanner.bind_of_found named).trans ?_
  exact Scanner.bind_of_found (Scanner.expect_cons ';' rest)

/-- A sign that is no character itself is an ampersand and what a reference is scanned from. -/
theorem scan_reference {sign : Sign} {reference : Reference} (proper : sign.isProper = true)
    (refers : sign.reference? = some reference) :
    ∃ behind, sign.text = '&' :: behind ∧
      ∀ rest, Reference.scan (behind ++ rest) = .found reference rest := by
  cases sign with
  | plain character => exact nomatch refers
  | decimal digits =>
    cases refers
    simp only [isProper, Bool.and_eq_true] at proper
    refine ⟨'#' :: digits ++ [';'], rfl, fun rest => ?_⟩
    rw [List.append_assoc]
    exact scan_decimal proper.2 rest
  | hexadecimal digits =>
    cases refers
    simp only [isProper, Bool.and_eq_true] at proper
    refine ⟨'#' :: 'x' :: digits ++ [';'], rfl, fun rest => ?_⟩
    rw [List.append_assoc]
    exact scan_hexadecimal proper.2 rest
  | named name =>
    cases refers
    simp only [isProper, character?, Bool.and_true] at proper
    refine ⟨name ++ [';'], rfl, fun rest => ?_⟩
    rw [List.append_assoc]
    exact scan_named (isName_of_predefined proper) rest

theorem piece_of_reference {sign : Sign} {reference : Reference}
    (refers : sign.reference? = some reference) : sign.piece = .referred reference := by
  cases sign <;> cases refers <;> rfl

theorem scanOrEnd_append {mark : Char} (marks : isMark mark = true) {sign : Sign}
    (proper : sign.isProper = true) (differs : sign ≠ .plain mark) (rest : List Char) :
    Piece.scanOrEnd mark (sign.text ++ rest) = .found (.item sign.piece) rest := by
  cases refers : sign.reference? with
  | none =>
    cases sign with
    | plain character =>
      simp only [isProper, character?, Option.isSome_some, Bool.true_and, Bool.and_eq_true,
        decide_eq_true_eq] at proper
      have notMark : character ≠ mark := fun same => differs (by rw [same])
      refine (Scanner.bind_of_found (Scanner.next_cons character rest)).trans ?_
      rw [if_neg notMark, if_neg proper.1, if_neg proper.2]
      rfl
    | decimal digits => exact nomatch refers
    | hexadecimal digits => exact nomatch refers
    | named name => exact nomatch refers
  | some reference =>
    obtain ⟨behind, same, scans⟩ := scan_reference proper refers
    have notMark : '&' ≠ mark := by
      rintro rfl
      exact nomatch marks
    rw [same, piece_of_reference refers]
    refine (Scanner.bind_of_found (Scanner.next_cons '&' (behind ++ rest))).trans ?_
    rw [if_neg notMark, if_neg (by decide), if_pos rfl]
    exact Scanner.bind_of_found (scans rest)

theorem scanValue_append {mark : Char} (marks : isMark mark = true) {signs : List Sign}
    (proper : ∀ sign ∈ signs, sign.isProper = true ∧ sign ≠ .plain mark) (rest : List Char) :
    Piece.scanValue mark (signs.flatMap Sign.text ++ mark :: rest) =
      .found (signs.map Sign.piece) rest := by
  have scanned : Scanner.rounds (Piece.scanOrEnd mark) (signs.flatMap Sign.text ++ mark :: rest) =
      .found (signs.map Sign.piece, ()) rest := by
    induction signs with
    | nil =>
      refine Scanner.rounds_of_last ((Scanner.bind_of_found (Scanner.next_cons mark rest)).trans ?_)
      rw [if_pos rfl]
      rfl
    | cons sign others inductionHypothesis =>
      obtain ⟨properFirst, differs⟩ := proper sign (List.mem_cons_self ..)
      rw [List.flatMap_cons, List.append_assoc]
      exact Scanner.rounds_of_item (Piece.advances_scanOrEnd mark)
        (scanOrEnd_append marks properFirst differs _)
        (inductionHypothesis fun other member => proper other (List.mem_cons_of_mem _ member))
  exact Scanner.bind_of_found scanned

end Sign

/-! ### Tags -/

namespace Attribution

/-- The attribute as the scanner yields it. -/
def written (attribution : Attribution) : WrittenAttribute :=
  { name := attribution.label.text, value := attribution.signs.map Sign.piece }

theorem isProper_iff (attribution : Attribution) : attribution.isProper = true ↔
    attribution.gap ≠ [] ∧ areSpaces attribution.gap = true ∧ attribution.label.isProper = true ∧
      areSpaces attribution.before = true ∧ areSpaces attribution.behind = true ∧
      isMark attribution.mark = true ∧
      ∀ sign ∈ attribution.signs, sign.isProper = true ∧ sign ≠ .plain attribution.mark := by
  simp [isProper, and_assoc, List.all_eq_true]

theorem isProper_label {attribution : Attribution} (proper : attribution.isProper = true) :
    attribution.label.isProper = true := ((isProper_iff _).1 proper).2.2.1

theorem notSpace_of_mark {character : Char} (marks : isMark character = true) :
    isSpace character = false := by
  simp only [isMark, Bool.or_eq_true, decide_eq_true_eq] at marks
  rcases marks with rfl | rfl <;> decide

/-- The attribute as it is written behind the white space before it. -/
def bare (attribution : Attribution) : List Char :=
  attribution.label.text ++ (attribution.before ++ '=' :: (attribution.behind ++
    attribution.mark :: (attribution.signs.flatMap Sign.text ++ [attribution.mark])))

theorem text_eq (attribution : Attribution) :
    attribution.text = attribution.gap ++ attribution.bare := by
  simp [text, bare]

theorem writtenAttribute_append {attribution : Attribution} (proper : attribution.isProper = true)
    (rest : List Char) :
    Markup.writtenAttribute (attribution.bare ++ rest) = .found attribution.written rest := by
  obtain ⟨-, -, properLabel, blankBefore, blankBehind, marks, properSigns⟩ :=
    (isProper_iff _).1 proper
  simp only [bare, List.append_assoc, List.cons_append, List.nil_append]
  have stopsAtEquals : Stops Doctype.Token.isWordCharacter (attribution.before ++ '=' ::
      (attribution.behind ++ attribution.mark :: (attribution.signs.flatMap Sign.text ++
        attribution.mark :: rest))) :=
    (stops_cons (by decide) _).after fun character member =>
      isWordCharacter_of_isSpace (isSpace_of_mem blankBefore character member)
  refine (Scanner.bind_of_found (qualifiedName_append properLabel stopsAtEquals)).trans ?_
  refine (Scanner.bind_of_found
    (skipSpaces_append blankBefore (stops_cons (by decide) _))).trans ?_
  refine (Scanner.bind_of_found (Scanner.expect_cons '=' _)).trans ?_
  refine (Scanner.bind_of_found
    (skipSpaces_append blankBehind (stops_cons (notSpace_of_mark marks) _))).trans ?_
  refine (Scanner.bind_of_found (Scanner.next_cons attribution.mark _)).trans ?_
  rw [if_pos (show (attribution.mark = '"' || attribution.mark = '\x27') = true from marks)]
  exact Scanner.bind_of_found (Sign.scanValue_append marks properSigns rest)

theorem attributeOrEnd_append {attribution : Attribution} (proper : attribution.isProper = true)
    (rest : List Char) :
    Markup.attributeOrEnd (attribution.text ++ rest) = .found (.item attribution.written) rest := by
  have scanned := writtenAttribute_append proper rest
  obtain ⟨given, blank, properLabel, -⟩ := (isProper_iff _).1 proper
  obtain ⟨first, others, begins, starts, -⟩ := Label.exists_of_isProper properLabel
  rw [text_eq, List.append_assoc]
  rw [bare, begins, List.cons_append, List.cons_append] at scanned ⊢
  generalize others ++ _ ++ rest = others at scanned ⊢
  have stops : Stops isSpace (first :: others) :=
    stops_cons (isSpace_of_isNameCharacter (isNameCharacter_of_isNameStart starts)) _
  refine (Scanner.bind_of_found (Scanner.takeWhile_append (isSpace_of_mem blank) stops)).trans ?_
  refine (Scanner.bind_of_found (Scanner.peek_cons first others)).trans ?_
  rw [if_neg (by rintro rfl; exact absurd starts (by decide)),
    if_neg (by rintro rfl; exact absurd starts (by decide)),
    if_neg (by simpa using given)]
  exact Scanner.bind_of_found scanned

end Attribution

namespace StartTag

/-- The start tag as the scanner yields it. -/
def written (tag : StartTag) (isEmpty : Bool) : WrittenTag :=
  { name := tag.label.text, attributes := tag.attributions.map Attribution.written, isEmpty }

/-- The end of a start tag. -/
def ending (isEmpty : Bool) : List Char := if isEmpty then "/>".toList else ['>']

theorem attributeOrEnd_ending {spaces : List Char} (blank : areSpaces spaces = true)
    (isEmpty : Bool)
    (rest : List Char) :
    Markup.attributeOrEnd (spaces ++ (ending isEmpty ++ rest)) = .found (.last isEmpty) rest := by
  cases isEmpty with
  | false =>
    have stops : Stops isSpace ('>' :: rest) := stops_cons (by decide) rest
    refine (Scanner.bind_of_found (Scanner.takeWhile_append (isSpace_of_mem blank) stops)).trans ?_
    refine (Scanner.bind_of_found (Scanner.peek_cons '>' rest)).trans ?_
    rw [if_pos rfl]
    exact Scanner.bind_of_found (Scanner.expect_cons '>' rest)
  | true =>
    have stops : Stops isSpace ('/' :: '>' :: rest) := stops_cons (by decide) _
    refine (Scanner.bind_of_found (Scanner.takeWhile_append (isSpace_of_mem blank) stops)).trans ?_
    refine (Scanner.bind_of_found (Scanner.peek_cons '/' ('>' :: rest))).trans ?_
    rw [if_neg (by decide), if_pos rfl]
    exact Scanner.bind_of_found (Scanner.expectAll_append "/>".toList rest)

theorem rounds_append {attributions : List Attribution}
    (proper : ∀ attribution ∈ attributions, attribution.isProper = true) {spaces : List Char}
    (blank : areSpaces spaces = true) (isEmpty : Bool) (rest : List Char) :
    Scanner.rounds Markup.attributeOrEnd
        (attributions.flatMap Attribution.text ++ (spaces ++ (ending isEmpty ++ rest))) =
      .found (attributions.map Attribution.written, isEmpty) rest := by
  induction attributions with
  | nil => exact Scanner.rounds_of_last (attributeOrEnd_ending blank isEmpty rest)
  | cons attribution others inductionHypothesis =>
    rw [List.flatMap_cons, List.append_assoc]
    exact Scanner.rounds_of_item Markup.advances_attributeOrEnd
      (Attribution.attributeOrEnd_append (proper _ (List.mem_cons_self ..)) _)
      (inductionHypothesis fun other member => proper other (List.mem_cons_of_mem _ member))

/-- What stands behind the name of an element is no part of it. -/
theorem stops_attributions {attributions : List Attribution}
    (proper : ∀ attribution ∈ attributions, attribution.isProper = true) {spaces : List Char}
    (blank : areSpaces spaces = true) (isEmpty : Bool) (rest : List Char) :
    Stops Doctype.Token.isWordCharacter
      (attributions.flatMap Attribution.text ++ (spaces ++ (ending isEmpty ++ rest))) := by
  cases attributions with
  | nil =>
    have stops : Stops Doctype.Token.isWordCharacter (ending isEmpty ++ rest) := by
      cases isEmpty
      · exact stops_cons (by decide) _
      · exact stops_cons (by decide) _
    exact stops.after fun character member =>
      isWordCharacter_of_isSpace (isSpace_of_mem blank character member)
  | cons attribution others =>
    obtain ⟨given, blankGap, -⟩ :=
      (Attribution.isProper_iff _).1 (proper attribution (List.mem_cons_self ..))
    obtain ⟨first, gap, same⟩ := List.exists_cons_of_ne_nil given
    have space : isSpace first = true :=
      isSpace_of_mem blankGap first (by rw [same]; exact List.mem_cons_self ..)
    rw [List.flatMap_cons, Attribution.text_eq, same]
    exact stops_cons (isWordCharacter_of_isSpace space) _

/-- A start tag behind its first character. -/
theorem startTagRest_append {tag : StartTag} (properLabel : tag.label.isProper = true)
    (properAttributions : ∀ attribution ∈ tag.attributions, attribution.isProper = true)
    (blank : areSpaces tag.spaces = true) (isEmpty : Bool) (rest : List Char) :
    Markup.startTagRest (tag.label.text ++ (tag.attributions.flatMap Attribution.text ++
        (tag.spaces ++ (ending isEmpty ++ rest)))) =
      .found (.startTag (tag.written isEmpty)) rest := by
  have stops := stops_attributions properAttributions blank isEmpty rest
  refine (Scanner.bind_of_found (qualifiedName_append properLabel stops)).trans ?_
  exact Scanner.bind_of_found (rounds_append properAttributions blank isEmpty rest)

end StartTag

/-- An end tag behind its opening. -/
theorem endTagRest_append {label : Label} (proper : label.isProper = true) {spaces : List Char}
    (blank : areSpaces spaces = true) (rest : List Char) :
    Markup.endTagRest (label.text ++ (spaces ++ '>' :: rest)) =
      .found (.endTag label.text) rest := by
  obtain ⟨first, others, same, starts, goesOn⟩ := Label.exists_of_isProper proper
  rw [same]
  have stops : Stops Doctype.Token.isWordCharacter (spaces ++ '>' :: rest) :=
    (stops_cons (by decide) rest).after fun character member =>
      isWordCharacter_of_isSpace (isSpace_of_mem blank character member)
  refine (Scanner.bind_of_found (Scanner.next_cons first _)).trans ?_
  rw [if_pos starts]
  refine (Scanner.bind_of_found (Scanner.takeWhile_append goesOn stops)).trans ?_
  refine (Scanner.bind_of_found (skipSpaces_append blank (stops_cons (by decide) rest))).trans ?_
  exact Scanner.bind_of_found (Scanner.expect_cons '>' rest)

/-! ### Comments, instructions and character data -/

/-- Text that does not hold two characters in a row, with a character that they end with behind it.
-/
theorem not_infix_of_cons {pattern : List Char} {first : Char} {rest : List Char}
    (without : ¬pattern <:+: first :: rest) : ¬pattern <:+: rest :=
  fun within => without (within.trans (List.suffix_cons first rest).isInfix)

/-- A comment behind its opening. -/
theorem passComment_append {characters : List Char}
    (without : ¬"--".toList <:+: characters ++ ['-'])
    (rest : List Char) :
    Markup.passComment (characters ++ ("-->".toList ++ rest)) = .found .passed rest := by
  induction characters with
  | nil => rfl
  | cons first others inductionHypothesis =>
    rw [List.cons_append, Markup.passComment_cons]
    · exact inductionHypothesis (not_infix_of_cons without)
    · rintro rfl
      cases others with
      | nil => exact absurd ⟨[], [], rfl⟩ without
      | cons second others =>
        refine ⟨second, _, rfl, ?_⟩
        rintro rfl
        exact without ⟨[], others ++ ['-'], rfl⟩

theorem comment_append {characters : List Char} (without : ¬"--".toList <:+: characters ++ ['-'])
    (rest : List Char) :
    Markup.comment ("--".toList ++ (characters ++ ("-->".toList ++ rest))) = .found .passed rest :=
  (Scanner.bind_of_found (Scanner.expectAll_append "--".toList _)).trans
    (passComment_append without rest)

/-- An instruction behind its target. -/
theorem passInstruction_append {characters : List Char} (without : ¬"?>".toList <:+: characters)
    (rest : List Char) :
    Markup.passInstruction (characters ++ ("?>".toList ++ rest)) = .found .passed rest := by
  induction characters with
  | nil => rfl
  | cons first others inductionHypothesis =>
    rw [List.cons_append, Markup.passInstruction_cons]
    · exact inductionHypothesis (not_infix_of_cons without)
    · rintro rfl
      cases others with
      | nil => exact ⟨'?', '>' :: rest, rfl, by decide⟩
      | cons second others =>
        refine ⟨second, _, rfl, ?_⟩
        rintro rfl
        exact without ⟨[], others, rfl⟩

theorem instruction_append {target characters : List Char} (named : isName target = true)
    (allowed : target.map Char.toLower ≠ "xml".toList)
    (blank : characters.head?.all isSpace = true)
    (without : ¬"?>".toList <:+: characters) (rest : List Char) :
    Markup.instruction (target ++ (characters ++ ("?>".toList ++ rest))) = .found .passed rest := by
  have notXml : target ≠ "xml".toList := fun same => allowed (by rw [same]; decide)
  have passed := passInstruction_append without rest
  cases characters with
  | nil =>
    have stops : Stops isNameCharacter ([] ++ ("?>".toList ++ rest)) := stops_cons (by decide) _
    refine (Scanner.bind_of_found (name_append named stops)).trans ?_
    refine (Scanner.bind_of_found (Scanner.peek_cons '?' ('>' :: rest))).trans ?_
    rw [if_neg notXml, if_neg allowed]
    refine (Scanner.bind_of_found (Scanner.peek_cons '?' ('>' :: rest))).trans ?_
    rw [if_neg (by decide)]
    exact Scanner.bind_of_found (Scanner.expectAll_append "?>".toList rest)
  | cons first others =>
    have space : isSpace first = true := blank
    have stops : Stops isNameCharacter (first :: others ++ ("?>".toList ++ rest)) :=
      stops_cons (isNameCharacter_of_word (isWordCharacter_of_isSpace space)) _
    refine (Scanner.bind_of_found (name_append named stops)).trans ?_
    refine (Scanner.bind_of_found (Scanner.peek_cons first _)).trans ?_
    rw [if_neg notXml, if_neg allowed]
    refine (Scanner.bind_of_found (Scanner.peek_cons first _)).trans ?_
    rw [if_pos space]
    exact passed

end Written

end ApiDoc.Xml
