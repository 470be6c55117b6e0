/-
This file proves that following what was written as the content of elements reports the start and
the end of each element, in the order of the tree, and leaves the document where it was.
-/
import ApiDoc.Proofs.SuitableMarkup
import ApiDoc.Proofs.WrittenTags

namespace ApiDoc.Xml.Written

/-! ### Markup in content -/

theorem afterOpening_comment {declaration : Scanner Markup} {characters : List Char}
    (comments : ∀ rest, declaration ('-' :: rest) = Markup.comment ('-' :: rest))
    (without : ¬"--".toList <:+: characters ++ ['-']) (rest : List Char) :
    Markup.afterOpening declaration ("!--".toList ++ (characters ++ ("-->".toList ++ rest))) =
      .found .passed rest := by
  refine (Scanner.bind_of_found (Scanner.peek_cons '!' _)).trans ?_
  refine (Scanner.bind_of_found (Scanner.expect_cons '!' _)).trans ?_
  exact (comments _).trans (comment_append without rest)

theorem afterOpening_instruction {declaration : Scanner Markup} {target characters : List Char}
    (named : isName target = true) (allowed : target.map Char.toLower ≠ "xml".toList)
    (blank : characters.head?.all isSpace = true)
    (without : ¬"?>".toList <:+: characters) (rest : List Char) :
    Markup.afterOpening declaration ('?' :: (target ++ (characters ++ ("?>".toList ++ rest)))) =
      .found .passed rest := by
  refine (Scanner.bind_of_found (Scanner.peek_cons '?' _)).trans ?_
  refine (Scanner.bind_of_found (Scanner.expect_cons '?' _)).trans ?_
  exact instruction_append named allowed blank without rest

theorem afterOpening_startTag {declaration : Scanner Markup} {tag : StartTag}
    (properLabel : tag.label.isProper = true)
    (properAttributions : ∀ attribution ∈ tag.attributions, attribution.isProper = true)
    (blank : areSpaces tag.spaces = true) (isEmpty : Bool) (rest : List Char) :
    Markup.afterOpening declaration (tag.label.text ++ (tag.attributions.flatMap Attribution.text ++
        (tag.spaces ++ (StartTag.ending isEmpty ++ rest)))) =
      .found (.startTag (tag.written isEmpty)) rest := by
  have scanned := StartTag.startTagRest_append properLabel properAttributions blank isEmpty rest
  obtain ⟨first, others, same, starts, -⟩ := Label.exists_of_isProper properLabel
  rw [same, List.cons_append] at scanned ⊢
  refine (Scanner.bind_of_found (Scanner.peek_cons first _)).trans ?_
  split
  · exact absurd starts (by decide)
  · exact absurd starts (by decide)
  · exact scanned

theorem content_plain {character : Char} {rest : List Char} (noTag : character ≠ '<')
    (noReference : character ≠ '&') (goesOn : Markup.EndsNoData character rest) :
    Markup.content (character :: rest) = .found .passed rest := by
  refine (Scanner.bind_of_found (Scanner.peek_cons character rest)).trans ?_
  split
  · exact absurd rfl noTag
  · exact absurd rfl noReference
  · exact Markup.text_cons goesOn

/-- What begins with an opening and is no end tag. -/
theorem content_opening {first : Char} {rest behind : List Char} {markup : Markup}
    (noEnd : first ≠ '/')
    (scanned : Markup.afterOpening Markup.declarationInContent (first :: rest) =
      .found markup behind) :
    Markup.content ('<' :: first :: rest) = .found markup behind := by
  refine (Scanner.bind_of_found (Scanner.peek_cons '<' _)).trans ?_
  refine (Scanner.bind_of_found (Scanner.expect_cons '<' _)).trans ?_
  refine (Scanner.bind_of_found (Scanner.peek_cons first rest)).trans ?_
  rw [if_neg noEnd]
  exact scanned

theorem content_endTag {label : Label} (proper : label.isProper = true) {spaces : List Char}
    (blank : areSpaces spaces = true) (rest : List Char) :
    Markup.content ("</".toList ++ (label.text ++ (spaces ++ '>' :: rest))) =
      .found (.endTag label.text) rest := by
  refine (Scanner.bind_of_found (Scanner.peek_cons '<' _)).trans ?_
  refine (Scanner.bind_of_found (Scanner.expect_cons '<' _)).trans ?_
  refine (Scanner.bind_of_found (Scanner.peek_cons '/' _)).trans ?_
  rw [if_pos rfl]
  refine (Scanner.bind_of_found (Scanner.expect_cons '/' _)).trans ?_
  exact endTagRest_append proper blank rest

theorem content_reference {sign : Sign} {reference : Reference} (proper : sign.isProper = true)
    (refers : sign.reference? = some reference) (rest : List Char) :
    Markup.content (sign.text ++ rest) = .found (.reference reference) rest := by
  obtain ⟨behind, same, scans⟩ := Sign.scan_reference proper refers
  rw [same]
  refine (Scanner.bind_of_found (Scanner.peek_cons '&' (behind ++ rest))).trans ?_
  refine (Scanner.bind_of_found (Scanner.expect_cons '&' (behind ++ rest))).trans ?_
  exact Scanner.bind_of_found (scans rest)

theorem content_dataStart (rest : List Char) :
    Markup.content ("<![CDATA[".toList ++ rest) = .found .dataStart rest := by
  have opens : "<![CDATA[".toList ++ rest = '<' :: '!' :: ("[CDATA[".toList ++ rest) := rfl
  have begins : "[CDATA[".toList ++ rest = '[' :: ("CDATA[".toList ++ rest) := rfl
  rw [opens]
  refine content_opening (by decide) ?_
  refine (Scanner.bind_of_found (Scanner.peek_cons '!' _)).trans ?_
  refine (Scanner.bind_of_found (Scanner.expect_cons '!' _)).trans ?_
  refine (Scanner.bind_of_found
    (?_ : Scanner.peek _ = .found '[' ("[CDATA[".toList ++ rest))).trans ?_
  · rw [begins, Scanner.peek_cons]
  rw [if_neg (by decide), begins]
  refine (Scanner.bind_of_found (Scanner.expect_cons '[' _)).trans ?_
  exact Scanner.bind_of_found (Scanner.expectTogether_append "CDATA[".toList rest)

theorem content_comment {characters : List Char} (without : ¬"--".toList <:+: characters ++ ['-'])
    (rest : List Char) :
    Markup.content ("<!--".toList ++ (characters ++ ("-->".toList ++ rest))) =
      .found .passed rest := by
  refine content_opening (by decide) (afterOpening_comment (fun rest => ?_) without rest)
  refine (Scanner.bind_of_found (Scanner.peek_cons '-' rest)).trans ?_
  rw [if_pos rfl]

theorem content_instruction {target characters : List Char} (named : isName target = true)
    (allowed : target.map Char.toLower ≠ "xml".toList)
    (blank : characters.head?.all isSpace = true)
    (without : ¬"?>".toList <:+: characters) (rest : List Char) :
    Markup.content ("<?".toList ++ (target ++ (characters ++ ("?>".toList ++ rest)))) =
      .found .passed rest :=
  content_opening (by decide) (afterOpening_instruction named allowed blank without rest)

/-! ### Text and character data -/

/-- Where the end of character data does not begin, a character is passed over before an opening. -/
theorem endsNoData_before_opening {first : Char} {text : List Char}
    (noEnd : ¬"]]>".toList <+: first :: text) (behind : List Char) :
    Markup.EndsNoData first (text ++ '<' :: behind) := by
  rintro rfl
  match text with
  | [] => exact ⟨'<', behind, rfl, fun same => absurd same (by decide)⟩
  | [second] => exact ⟨second, '<' :: behind, rfl, fun _ => ⟨'<', behind, rfl, by decide⟩⟩
  | second :: third :: others =>
    refine ⟨second, third :: others ++ '<' :: behind, rfl, ?_⟩
    rintro rfl
    refine ⟨third, others ++ '<' :: behind, rfl, ?_⟩
    rintro rfl
    exact noEnd ⟨others, rfl⟩

/-- Within a section of character data none of its characters ends it. -/
theorem endsNoData_before_end {first : Char} {text : List Char}
    (noEnd : ¬"]]>".toList <+: first :: text) (behind : List Char) :
    Markup.EndsNoData first (text ++ ("]]>".toList ++ behind)) := by
  rintro rfl
  match text with
  | [] => exact ⟨']', ']' :: '>' :: behind, rfl, fun _ => ⟨']', '>' :: behind, rfl, by decide⟩⟩
  | [second] => exact ⟨second, "]]>".toList ++ behind, rfl, fun _ => ⟨']', _, rfl, by decide⟩⟩
  | second :: third :: others =>
    refine ⟨second, third :: others ++ ("]]>".toList ++ behind), rfl, ?_⟩
    rintro rfl
    refine ⟨third, others ++ ("]]>".toList ++ behind), rfl, ?_⟩
    rintro rfl
    exact noEnd ⟨others, rfl⟩

/-! ### Items beside tags -/

section

variable {progress : Progress}

theorem report_of_scan {next : Progress} {text rest : List Char} {markup : Markup}
    {events : List Event} (scanned : Markup.scan progress.place text = .found markup rest)
    (stepped : progress.step? Progress.followReferred? markup = some (events, next)) :
    progress.report text = (next.report rest).after events := by
  rw [Progress.report_eq, scanned]
  simp only [stepped]

theorem report_of_silent_scan {next : Progress} {text rest : List Char} {markup : Markup}
    (scanned : Markup.scan progress.place text = .found markup rest)
    (stepped : progress.step? Progress.followReferred? markup = some ([], next)) :
    progress.report text = next.report rest :=
  report_of_scan scanned stepped

theorem report_of_passed {text rest : List Char}
    (scanned : Markup.scan progress.place text = .found .passed rest) :
    progress.report text = progress.report rest :=
  report_of_silent_scan scanned rfl

/-- A reference to a character is passed over, whatever the document declares. -/
theorem step?_reference {sign : Sign} {reference : Reference} (proper : sign.isProper = true)
    (refers : sign.reference? = some reference) :
    progress.step? Progress.followReferred? (.reference reference) = some ([], progress) := by
  simp only [Sign.isProper, Bool.and_eq_true] at proper
  obtain ⟨character, meant⟩ := Option.isSome_iff_exists.1 proper.1
  cases sign with
  | plain character => cases refers
  | decimal digits | hexadecimal digits =>
    cases refers
    simp only [Sign.character?] at meant
    simp only [Progress.step?, meant, Option.bind_some, Progress.silently]
  | named name =>
    cases refers
    simp only [Sign.character?] at meant
    simp only [Progress.step?, meant, Option.isSome_some, if_true, Progress.silently]

theorem report_sign (inContent : progress.place = .content) {sign : Sign}
    (proper : sign.isProper = true) {text : List Char} (noEnd : ¬"]]>".toList <+: sign.text ++ text)
    (behind : List Char) :
    progress.report (sign.text ++ (text ++ '<' :: behind)) =
      progress.report (text ++ '<' :: behind) := by
  cases refers : sign.reference? with
  | some reference =>
    refine report_of_silent_scan ?_ (step?_reference proper refers)
    rw [inContent]
    exact content_reference proper refers _
  | none =>
    cases sign with
    | plain character =>
      simp only [Sign.isProper, Sign.character?, Option.isSome_some, Bool.true_and,
        Bool.and_eq_true, decide_eq_true_eq] at proper
      refine report_of_passed ?_
      rw [inContent]
      exact content_plain proper.1 proper.2 (endsNoData_before_opening noEnd behind)
    | decimal digits | hexadecimal digits | named name => cases refers

theorem report_characters (inData : progress.place = .characterData) {characters : List Char}
    (without : ¬"]]>".toList <:+: characters) (rest : List Char) :
    progress.report (characters ++ ("]]>".toList ++ rest)) =
      progress.report ("]]>".toList ++ rest) := by
  induction characters with
  | nil => rfl
  | cons first others inductionHypothesis =>
    rw [← inductionHypothesis (not_infix_of_cons without)]
    refine report_of_passed ?_
    rw [inData]
    exact Markup.characterData_cons
      (endsNoData_before_end (mt List.IsPrefix.isInfix without) rest)

theorem report_data (inContent : progress.place = .content) {characters : List Char}
    (without : ¬"]]>".toList <:+: characters) (rest : List Char) :
    progress.report ("<![CDATA[".toList ++ (characters ++ ("]]>".toList ++ rest))) =
      progress.report rest := by
  have starts : progress.step? Progress.followReferred? .dataStart =
      some ([], progress.moved .characterData) := rfl
  have ends : (progress.moved .characterData).step? Progress.followReferred? .dataEnd =
      some ([], progress.moved .content) := rfl
  have back : progress.moved .content = progress := by rw [Progress.moved, ← inContent]
  have opens : Markup.scan progress.place
      ("<![CDATA[".toList ++ (characters ++ ("]]>".toList ++ rest))) =
      .found .dataStart (characters ++ ("]]>".toList ++ rest)) := by
    rw [inContent]
    exact content_dataStart _
  have closes : Markup.scan (progress.moved .characterData).place ("]]>".toList ++ rest) =
      .found .dataEnd rest := rfl
  rw [report_of_silent_scan opens starts, report_characters rfl without,
    report_of_silent_scan closes ends, back]

theorem between_append (opening closing : String) (characters rest : List Char) :
    Silent.between opening closing characters ++ rest =
      opening.toList ++ (characters ++ (closing.toList ++ rest)) := by
  rw [Silent.between, List.append_assoc, List.append_assoc]

/-- What stands in content beside tags is passed over. -/
theorem report_silent (inContent : progress.place = .content) {item : Silent}
    (wellFormed : item.WellFormed) {text : List Char} (noEnd : ¬"]]>".toList <+: item.text ++ text)
    (behind : List Char) :
    progress.report (item.text ++ (text ++ '<' :: behind)) =
      progress.report (text ++ '<' :: behind) := by
  cases item with
  | sign written => exact report_sign inContent wellFormed noEnd behind
  | data characters =>
    rw [Silent.text, between_append]
    exact report_data inContent wellFormed _
  | comment characters =>
    refine report_of_passed ?_
    rw [inContent, Silent.text, between_append]
    exact content_comment wellFormed _
  | instruction target characters =>
    obtain ⟨named, allowed, blank, without⟩ := wellFormed
    refine report_of_passed ?_
    rw [inContent, Silent.text, between_append, List.append_assoc]
    exact content_instruction named allowed blank without _

end

/-! ### Elements -/

namespace StartTag

theorem text_append (tag : StartTag) (rest : List Char) :
    tag.text ++ rest = '<' :: (tag.label.text ++
      (tag.attributions.flatMap Attribution.text ++ (tag.spaces ++ rest))) := by
  simp [text]

theorem scan_append {place : Place} (starts : place.startsElement = true) {tag : StartTag}
    {outer : Namespaces} (wellFormed : tag.WellFormed outer) (isEmpty : Bool) (rest : List Char) :
    Markup.scan place (tag.text ++ (ending isEmpty ++ rest)) =
      .found (.startTag (tag.written isEmpty)) rest := by
  have scanned (declaration : Scanner Markup) :
      Markup.afterOpening declaration (tag.label.text ++
        (tag.attributions.flatMap Attribution.text ++ (tag.spaces ++ (ending isEmpty ++ rest)))) =
      .found (.startTag (tag.written isEmpty)) rest :=
    afterOpening_startTag wellFormed.label wellFormed.attributions wellFormed.spaces isEmpty rest
  rw [text_append]
  cases place with
  | content =>
    obtain ⟨first, others, same, initial, -⟩ := Label.exists_of_isProper wellFormed.label
    rw [same, List.cons_append] at scanned ⊢
    refine content_opening ?_ (scanned _)
    rintro rfl
    exact absurd initial (by decide)
  | prolog hasDoctype =>
    refine (Scanner.bind_of_found (Scanner.peek_cons '<' _)).trans ?_
    rw [if_neg (by decide), if_pos rfl]
    exact (Scanner.bind_of_found (Scanner.expect_cons '<' _)).trans (scanned _)
  | subset | afterSubset | characterData | epilog => exact nomatch starts

end StartTag

/-- The progress of a document that declares nothing, where an element may start. -/
structure TakesElement (progress : Progress) : Prop where
  starts : progress.place.startsElement = true
  undeclared : progress.doctype.attributes = []
  balanced : progress.floor ≤ progress.ancestors.length

/-- The progress within an element that starts. -/
def inside (progress : Progress) (tag : StartTag) : Progress :=
  let element := { name := tag.label.text, namespaces := tag.scope progress.namespaces }
  { progress with place := .content, ancestors := element :: progress.ancestors }

@[simp]
theorem inside_namespaces (progress : Progress) (tag : StartTag) :
    (inside progress tag).namespaces = tag.scope progress.namespaces := rfl

/-- The progress behind an element that starts. -/
def past (progress : Progress) : Progress :=
  progress.moved (Progress.placeAmong progress.ancestors)

theorem past_eq_self {progress : Progress} (inContent : progress.place = .content)
    (within : progress.ancestors ≠ []) : past progress = progress := by
  have place : Progress.placeAmong progress.ancestors = .content := by
    rw [Progress.placeAmong, if_neg (by simpa using within)]
  rw [past, place, Progress.moved, ← inContent]

section

variable {progress : Progress} {tag : StartTag}

theorem TakesElement.inside (takes : TakesElement progress) (tag : StartTag) :
    TakesElement (inside progress tag) where
  starts := rfl
  undeclared := takes.undeclared
  balanced := Nat.le_succ_of_le takes.balanced

theorem enter?_written (takes : TakesElement progress)
    (wellFormed : tag.WellFormed progress.namespaces) (isEmpty : Bool) :
    progress.enter? (tag.written isEmpty) = some
      (if isEmpty then
        ([Tree.opening (tag.name progress.namespaces) (tag.attributes progress.namespaces),
          .closed], past progress)
      else
        ([Tree.opening (tag.name progress.namespaces) (tag.attributes progress.namespaces)],
          inside progress tag)) := by
  have resolved := StartTag.resolve?_written wellFormed takes.undeclared isEmpty
  unfold Progress.enter?
  rw [resolved, Option.bind_eq_bind, Option.bind_some]
  cases isEmpty <;> simp [StartTag.written, Progress.opening, Tree.opening, inside, past,
    ExpandedName.resolved]

theorem leave?_written (takes : TakesElement progress) :
    (inside progress tag).leave? tag.label.text = some ([.closed], past progress) :=
  if_pos ⟨rfl, takes.balanced⟩

/-- An element that ends with its start tag. -/
theorem report_empty (takes : TakesElement progress)
    (wellFormed : tag.WellFormed progress.namespaces) (rest : List Char) :
    progress.report (tag.text ++ ("/>".toList ++ rest)) = ((past progress).report rest).after
      (Tree.node (tag.name progress.namespaces) (tag.attributes progress.namespaces) []).events :=
  report_of_scan (StartTag.scan_append takes.starts wellFormed true rest)
    (enter?_written takes wellFormed true)

/-- An element whose content is followed as it should be. -/
theorem report_nested (takes : TakesElement progress)
    (wellFormed : tag.WellFormed progress.namespaces) {inner spaces : List Char} {trees : List Tree}
    (followed : ∀ behind, (inside progress tag).report (inner ++ '<' :: behind) =
      ((inside progress tag).report ('<' :: behind)).after (Tree.eventsOfAll trees))
    (blank : areSpaces spaces = true) (rest : List Char) :
    progress.report (tag.text ++ '>' ::
        (inner ++ ("</".toList ++ (tag.label.text ++ (spaces ++ '>' :: rest))))) =
      ((past progress).report rest).after
        (Tree.node (tag.name progress.namespaces)
          (tag.attributes progress.namespaces) trees).events := by
  have ended : (inside progress tag).report
      ("</".toList ++ (tag.label.text ++ (spaces ++ '>' :: rest))) =
      ((past progress).report rest).after [.closed] :=
    report_of_scan (content_endTag wellFormed.label blank rest) (leave?_written takes)
  have within := followed ('/' :: (tag.label.text ++ (spaces ++ '>' :: rest)))
  have started := report_of_scan (StartTag.scan_append takes.starts wellFormed false
      (inner ++ ("</".toList ++ (tag.label.text ++ (spaces ++ '>' :: rest)))))
    (enter?_written takes wellFormed false)
  refine started.trans ?_
  refine (congrArg (Progress.Report.after _) (within.trans (congrArg _ ended))).trans ?_
  rw [Progress.Report.after_after, Progress.Report.after_after]
  rfl

end

/-- Content between two tags is followed element by element, and the document stands behind it where
it stood before it. -/
theorem report_content {content : Content} {progress : Progress} (takes : TakesElement progress)
    (inContent : progress.place = .content) (within : progress.ancestors ≠ [])
    (wellFormed : content.WellFormed progress.namespaces) (behind : List Char) :
    progress.report (content.text ++ '<' :: behind) = (progress.report ('<' :: behind)).after
      (Tree.eventsOfAll (content.trees progress.namespaces)) := by
  induction content generalizing progress behind with
  | nothing => rfl
  | silent item rest inductionHypothesis =>
    obtain ⟨wellFormedItem, noEnd, wellFormedRest⟩ := wellFormed
    rw [Content.text, List.append_assoc, report_silent inContent wellFormedItem noEnd]
    exact inductionHypothesis takes inContent within wellFormedRest behind
  | empty tag rest inductionHypothesis =>
    obtain ⟨wellFormedTag, wellFormedRest⟩ := wellFormed
    rw [Content.text, List.append_assoc, List.append_assoc, report_empty takes wellFormedTag,
      past_eq_self inContent within,
      inductionHypothesis takes inContent within wellFormedRest behind,
      Progress.Report.after_after]
    rfl
  | nested tag inner spaces rest inductionInner inductionRest =>
    obtain ⟨wellFormedTag, wellFormedInner, blank, wellFormedRest⟩ := wellFormed
    have followed := inductionInner (takes.inside tag) rfl (List.cons_ne_nil _ _) wellFormedInner
    have same : (Content.nested tag inner spaces rest).text ++ '<' :: behind =
        tag.text ++ '>' :: (inner.text ++ ("</".toList ++ (tag.label.text ++ (spaces ++ '>' ::
          (rest.text ++ '<' :: behind))))) := by
      simp [Content.text]
    rw [same, report_nested takes wellFormedTag followed blank,
      past_eq_self inContent within, inductionRest takes inContent within wellFormedRest behind,
      Progress.Report.after_after]
    rfl

end ApiDoc.Xml.Written
