/-
This file proves that the scanner of markup keeps its judgement at every place of a document, and
that whatever it finds takes a character. The pieces of markup that a text begins with are therefore
the same however much of the text has arrived behind them.
-/
import ApiDoc.Proofs.SteadyScanning

namespace ApiDoc.Xml

open Scanner (Steady Advances)

/-! ### Declarations in the prolog -/

namespace Doctype

namespace Token

/-- The sign after a word. -/
theorem steady_afterWord (word : List Char) :
    Steady (do
      let character ← Scanner.peek
      if endsWord character then return ofWord word
      else if ['?', '*', '+'].contains character && ofWord word ≠ .nameToken then
        Scanner.expect character
        return .countedName
      else Scanner.reject) :=
  Steady.peek.bind fun _ => .ite (.pure _) (.ite ((Steady.expect _).bind fun _ => .pure _) .reject)

theorem steady_scanWord : scanWord.Steady := (Steady.takeWhile _).bind steady_afterWord

theorem steady_scanLiteral (mark : Char) : (scanLiteral mark).Steady :=
  (Steady.takeWhile _).bind fun _ => (Steady.expect _).bind fun _ => Steady.peek.bind fun _ =>
    .ite (.pure _) .reject

theorem steady_scanKeyword : scanKeyword.Steady :=
  Steady.name.bind fun _ => Steady.peek.bind fun _ => .ite (.pure _) .reject

theorem steady_scanClosing : scanClosing.Steady :=
  Steady.peek.bind fun _ => .ite ((Steady.expect _).bind fun _ => .pure _)
    (.ite ((Steady.expect _).bind fun _ => .pure _) (.ite (.pure _) .reject))

theorem steady_scanPercent : scanPercent.Steady :=
  Steady.peek.bind fun _ => .ite (.pure _) .reject

/-- What a token is that does not begin like a word, once its first character is taken. -/
theorem steady_afterSign (character : Char) :
    Steady (match character with
      | '"' => scanLiteral '"'
      | '\x27' => scanLiteral '\x27'
      | '#' => scanKeyword
      | ')' => scanClosing
      | '%' => scanPercent
      | ',' => pure .comma
      | '|' => pure .bar
      | '(' => pure .opening
      | '[' => pure .bracket
      | '>' => pure .stop
      | _ => Scanner.reject) := by
  split
  · exact steady_scanLiteral _
  · exact steady_scanLiteral _
  · exact steady_scanKeyword
  · exact steady_scanClosing
  · exact steady_scanPercent
  any_goals exact .pure _
  exact .reject

theorem steady_scan : scan.Steady :=
  Steady.peek.bind fun character => .ite steady_scanWord
    ((Steady.expect _).bind fun _ => steady_afterSign character)

/-- A word that begins with a character of words takes this character. -/
theorem advances_scan : scan.Advances := by
  intro text token rest scanned
  obtain ⟨character, same, peeked, scanned⟩ := Scanner.found_of_bind scanned
  cases text with
  | nil => cases peeked
  | cons first others =>
    obtain ⟨rfl, rfl⟩ : first = character ∧ first :: others = same := by
      simpa [Scanner.peek] using peeked
    split at scanned <;> rename_i isWord
    · obtain ⟨word, middle, taken, followed⟩ := Scanner.found_of_bind scanned
      have shorter : middle.length < (first :: others).length := by
        simp only [Scanner.takeWhile, Scanner.run, isWord, if_true] at taken
        split at taken
        · cases taken
          exact Nat.lt_succ_of_le ((Steady.takeWhile isWordCharacter).shrinks _ _ _ ‹_›)
        · cases taken
        · cases taken
      exact Nat.lt_of_le_of_lt ((steady_afterWord word).shrinks _ _ _ followed) shorter
    · exact (Advances.expect first).bind (fun _ => steady_afterSign first) _ _ _ scanned

theorem steady_scanRound (isLast : Token → Bool) : (scanRound isLast).Steady :=
  Steady.skipSpaces.bind fun _ => steady_scan.bind fun _ => .pure _

theorem advances_scanRound (isLast : Token → Bool) : (scanRound isLast).Advances :=
  Steady.skipSpaces.advances_bind fun _ => advances_scan.bind fun _ => .pure _

theorem steady_scanThrough (isLast : Token → Bool) : (scanThrough isLast).Steady :=
  ((steady_scanRound isLast).rounds (advances_scanRound isLast)).bind fun _ => .pure _

end Token

theorem Declaration.steady_scanKeyword : scanKeyword.Steady :=
  (Steady.takeWhile _).bind fun _ => Steady.peek.bind fun _ => .ite (.pure _) .reject

theorem Declaration.steady_scan : scan.Steady :=
  steady_scanKeyword.bind fun _ => (Token.steady_scanThrough _).bind fun _ => .accept? _

theorem Header.steady_scan : scan.Steady :=
  Declaration.steady_scanKeyword.bind fun _ => (Token.steady_scanThrough _).bind fun _ =>
    .ite (.accept? _) .reject

end Doctype

namespace Markup

/-! ### Comments and instructions -/

/-- A comment goes on after a character unless this may be the first of two hyphens. -/
theorem passComment_cons {first : Char} {rest : List Char}
    (goesOn : first = '-' → ∃ second others, rest = second :: others ∧ second ≠ '-') :
    passComment (first :: rest) = passComment rest := by
  rw [passComment] <;> grind

theorem steady_passComment : passComment.Steady where
  settled text more := by
    fun_induction passComment text with
    | case1 | case2 => exact fun _ => by simp [passComment, Scan.extended]
    | case3 | case4 | case5 => exact fun judged => absurd rfl judged
    | case6 first rest noEnd noHyphens lone both inductionHypothesis =>
      intro judged
      rw [List.cons_append, passComment_cons, inductionHypothesis judged]
      intro hyphen
      rcases rest with _ | ⟨second, _ | ⟨third, others⟩⟩
      · exact absurd rfl (lone hyphen)
      · exact ⟨second, more, rfl, fun same => both hyphen (by rw [same])⟩
      · exact ⟨second, third :: others ++ more, rfl, fun same =>
          noHyphens third others hyphen (by rw [same])⟩
  shrinks text := by
    fun_induction passComment text with
    | _ => grind

/-- An instruction goes on after a character unless this may be the question mark of its end. -/
theorem passInstruction_cons {first : Char} {rest : List Char}
    (goesOn : first = '?' → ∃ second others, rest = second :: others ∧ second ≠ '>') :
    passInstruction (first :: rest) = passInstruction rest := by
  rw [passInstruction] <;> grind

theorem steady_passInstruction : passInstruction.Steady where
  settled text more := by
    fun_induction passInstruction text with
    | case1 => exact fun _ => rfl
    | case2 | case3 => exact fun judged => absurd rfl judged
    | case4 first rest noEnd lone inductionHypothesis =>
      intro judged
      rw [List.cons_append, passInstruction_cons, inductionHypothesis judged]
      intro mark
      match rest with
      | [] => exact absurd rfl (lone mark)
      | second :: others =>
        exact ⟨second, others ++ more, rfl, fun closes => noEnd others mark (by rw [closes])⟩
  shrinks text := by
    fun_induction passInstruction text with
    | _ => grind

theorem steady_comment : comment.Steady :=
  (Steady.expectAll _).bind fun _ => steady_passComment

theorem steady_instructionRest : instructionRest.Steady :=
  Steady.peek.bind fun _ => .ite steady_passInstruction ((Steady.expectAll _).bind fun _ => .pure _)

theorem steady_instruction : instruction.Steady :=
  Steady.name.bind fun _ => Steady.peek.bind fun _ => .ite
    (steady_instructionRest.bind fun _ => .reject) (.ite .reject steady_instructionRest)

/-! ### Tags -/

theorem steady_afterAttributeName (name : List Char) :
    Steady (do
      Scanner.skipSpaces
      Scanner.expect '='
      Scanner.skipSpaces
      let mark ← Scanner.next
      if mark = '"' || mark = '\x27' then
        return ({ name, value := ← Piece.scanValue mark } : WrittenAttribute)
      else Scanner.reject) :=
  Steady.skipSpaces.bind fun _ => (Steady.expect _).bind fun _ => Steady.skipSpaces.bind fun _ =>
    Steady.next.bind fun _ => .ite ((Piece.steady_scanValue _).bind fun _ => .pure _) .reject

theorem steady_writtenAttribute : writtenAttribute.Steady :=
  Steady.qualifiedName.bind steady_afterAttributeName

theorem advances_writtenAttribute : writtenAttribute.Advances :=
  Advances.qualifiedName.bind steady_afterAttributeName

theorem steady_attributeOrEnd : attributeOrEnd.Steady :=
  (Steady.takeWhile _).bind fun _ => Steady.peek.bind fun _ =>
    .ite ((Steady.expect _).bind fun _ => .pure _)
      (.ite ((Steady.expectAll _).bind fun _ => .pure _)
        (.ite .reject (steady_writtenAttribute.bind fun _ => .pure _)))

theorem advances_attributeOrEnd : attributeOrEnd.Advances :=
  (Steady.takeWhile _).advances_bind fun _ => Steady.peek.advances_bind fun _ =>
    .ite ((Advances.expect _).bind fun _ => .pure _)
      (.ite ((Advances.expectAll (by decide)).bind fun _ => .pure _)
        (.ite .reject (advances_writtenAttribute.bind fun _ => .pure _)))

theorem steady_startTagRest : startTagRest.Steady :=
  Steady.qualifiedName.bind fun _ =>
    (steady_attributeOrEnd.rounds advances_attributeOrEnd).bind fun _ => .pure _

theorem steady_endTagRest : endTagRest.Steady :=
  Steady.next.bind fun _ => .ite
    ((Steady.takeWhile _).bind fun _ => Steady.skipSpaces.bind fun _ =>
      (Steady.expect _).bind fun _ =>
      .pure _) .reject

/-! ### Text and character data -/

/-- Enough comes after the character to see that the end of a section of character data does not
begin with it. -/
def EndsNoData (first : Char) (rest : List Char) : Prop :=
  first = ']' → ∃ second others, rest = second :: others ∧
    (second = ']' → ∃ third behind, others = third :: behind ∧ third ≠ '>')

/-- Text and character data look at the same characters, of which none comes too late. -/
theorem endsNoData_append {first : Char} {rest : List Char} (more : List Char)
    (noEnd : ∀ behind, first = ']' → rest = ']' :: '>' :: behind → False)
    (lone : first = ']' → rest = [] → False) (both : first = ']' → rest = [']'] → False) :
    EndsNoData first (rest ++ more) := by
  intro bracket
  match rest with
  | [] => exact absurd rfl (lone bracket)
  | [second] => exact ⟨second, more, rfl, fun same => absurd (by rw [same]) (both bracket)⟩
  | second :: third :: others =>
    exact ⟨second, third :: others ++ more, rfl, fun same =>
      ⟨third, others ++ more, rfl, fun closes => noEnd others bracket (by rw [same, closes])⟩⟩

theorem text_cons {first : Char} {rest : List Char} (goesOn : EndsNoData first rest) :
    text (first :: rest) = .found .passed rest := by
  unfold EndsNoData at goesOn
  rw [text] <;> grind

theorem characterData_cons {first : Char} {rest : List Char} (goesOn : EndsNoData first rest) :
    characterData (first :: rest) = .found .passed rest := by
  unfold EndsNoData at goesOn
  rw [characterData] <;> grind

theorem steady_text : text.Steady where
  settled characters more := by
    fun_cases text characters with
    | case1 => exact fun _ => rfl
    | case2 | case3 | case4 => exact fun judged => absurd rfl judged
    | case5 first rest noEnd lone both =>
      exact fun _ => text_cons (endsNoData_append more noEnd lone both)
  shrinks characters := by
    fun_cases text characters with
    | _ => grind

theorem advances_text : text.Advances := by
  intro characters
  fun_cases text characters with
  | _ => grind

theorem steady_characterData : characterData.Steady where
  settled characters more := by
    fun_cases characterData characters with
    | case1 => exact fun _ => rfl
    | case2 | case3 | case4 => exact fun judged => absurd rfl judged
    | case5 first rest noEnd lone both =>
      exact fun _ => characterData_cons (endsNoData_append more noEnd lone both)
  shrinks characters := by
    fun_cases characterData characters with
    | _ => grind

theorem advances_characterData : characterData.Advances := by
  intro characters
  fun_cases characterData characters with
  | _ => grind

/-! ### Places -/

theorem steady_declarationInContent : declarationInContent.Steady :=
  Steady.peek.bind fun _ => .ite steady_comment <|
    (Steady.expect _).bind fun _ => (Steady.expectTogether _).bind fun _ => .pure _

theorem steady_afterOpening {declaration : Scanner Markup} (steady : declaration.Steady) :
    (afterOpening declaration).Steady := by
  refine Steady.peek.bind fun character => ?_
  split
  · exact (Steady.expect _).bind fun _ => steady
  · exact (Steady.expect _).bind fun _ => steady_instruction
  · exact steady_startTagRest

theorem steady_afterOpeningInContent :
    Steady (do
      if (← Scanner.peek) = '/' then
        Scanner.expect '/'
        endTagRest
      else afterOpening declarationInContent) :=
  Steady.peek.bind fun _ => .ite ((Steady.expect _).bind fun _ => steady_endTagRest)
    (steady_afterOpening steady_declarationInContent)

theorem steady_content : content.Steady := by
  refine Steady.peek.bind fun character => ?_
  split
  · exact (Steady.expect _).bind fun _ => steady_afterOpeningInContent
  · exact (Steady.expect _).bind fun _ => Reference.steady_scan.bind fun _ => .pure _
  · exact steady_text

theorem advances_content : content.Advances := by
  refine Steady.peek.advances_bind fun character => ?_
  split
  · exact (Advances.expect _).bind fun _ => steady_afterOpeningInContent
  · exact (Advances.expect _).bind fun _ => Reference.steady_scan.bind fun _ => .pure _
  · exact advances_text

theorem steady_commentOr {declaration : Scanner Markup} (steady : declaration.Steady) :
    (commentOr declaration).Steady :=
  Steady.peek.bind fun _ => .ite steady_comment steady

theorem steady_aroundRoot {markup stray : Scanner Markup} (steadyMarkup : markup.Steady)
    (steadyStray : stray.Steady) : (aroundRoot markup stray).Steady :=
  Steady.peek.bind fun _ => .ite ((Steady.expect _).bind fun _ => .pure _)
    (.ite ((Steady.expect _).bind fun _ => steadyMarkup) steadyStray)

theorem advances_aroundRoot {markup stray : Scanner Markup} (steadyMarkup : markup.Steady)
    (advancesStray : stray.Advances) : (aroundRoot markup stray).Advances :=
  Steady.peek.advances_bind fun _ => .ite ((Advances.expect _).bind fun _ => .pure _)
    (.ite ((Advances.expect _).bind fun _ => steadyMarkup) advancesStray)

theorem steady_strayToken : strayToken.Steady := Doctype.Token.steady_scan.bind fun _ => .reject

theorem advances_strayToken : strayToken.Advances :=
  Doctype.Token.steady_scan.advances_bind fun _ => .reject

theorem steady_strayUnlessWord : strayUnlessWord.Steady :=
  Steady.peek.bind fun _ => .ite .reject steady_strayToken

theorem advances_strayUnlessWord : strayUnlessWord.Advances :=
  Steady.peek.advances_bind fun _ => .ite .reject advances_strayToken

theorem steady_afterOpeningInProlog (hasDoctype : Bool) :
    (afterOpening (commentOr (if hasDoctype then Scanner.reject else headerRest))).Steady :=
  steady_afterOpening (steady_commentOr
    (.ite .reject (Doctype.Header.steady_scan.bind fun _ => .pure _)))

theorem steady_commentOrInstruction : commentOrInstruction.Steady := by
  refine Steady.next.bind fun character => ?_
  split
  · exact steady_comment
  · exact steady_instruction
  · exact .reject

/-- What stands between declarations, once its first character is taken. -/
theorem steady_afterSubsetCharacter (character : Char) :
    Steady (if isSpace character then pure Markup.passed
      else match character with
        | '%' => do
          let _ ← Scanner.name
          Scanner.expect ';'
          return .parameterReference
        | ']' => return .subsetEnd
        | '<' => do
          match ← Scanner.next with
          | '!' => commentOr declarationRest
          | '?' => instruction
          | _ => Scanner.reject
        | _ => Scanner.reject) := by
  refine .ite (.pure _) ?_
  split
  · exact Steady.name.bind fun _ => (Steady.expect _).bind fun _ => .pure _
  · exact .pure _
  · refine Steady.next.bind fun second => ?_
    split
    · exact steady_commentOr (Doctype.Declaration.steady_scan.bind fun _ => .pure _)
    · exact steady_instruction
    · exact .reject
  · exact .reject

theorem steady_afterSubsetEnd (character : Char) :
    Steady (if isSpace character then pure Markup.passed
      else if character = '>' then pure .headerEnd else Scanner.reject) :=
  .ite (.pure _) (.ite (.pure _) .reject)

/-- Whatever the place, more characters do not change what the markup there is. -/
theorem steady_scan : ∀ place, (scan place).Steady
  | .prolog hasDoctype =>
    steady_aroundRoot (steady_afterOpeningInProlog hasDoctype) steady_strayToken
  | .subset => Steady.next.bind steady_afterSubsetCharacter
  | .afterSubset => Steady.next.bind steady_afterSubsetEnd
  | .content => steady_content
  | .characterData => steady_characterData
  | .epilog => steady_aroundRoot steady_commentOrInstruction steady_strayUnlessWord

/-- Whatever the place, markup is made of a character at least. -/
theorem advances_scan : ∀ place, (scan place).Advances
  | .prolog hasDoctype =>
    advances_aroundRoot (steady_afterOpeningInProlog hasDoctype) advances_strayToken
  | .subset => Advances.next.bind steady_afterSubsetCharacter
  | .afterSubset => Advances.next.bind steady_afterSubsetEnd
  | .content => advances_content
  | .characterData => advances_characterData
  | .epilog => advances_aroundRoot steady_commentOrInstruction advances_strayUnlessWord

/-- No markup is made of nothing, and none is malformed before anything has arrived. -/
theorem scan_nil (place : Place) : scan place [] = .unfinished := by cases place <;> rfl

end Markup

end ApiDoc.Xml
