/-
This file proves that the reader of documents reports the tree that a document was written for: what
stands around the root element is passed over, the declaration is taken off the front, and the bytes
of the rest make up its characters again.
-/
import ApiDoc.Proofs.WrittenContent
import ApiDoc.Proofs.WrittenPreamble

namespace ApiDoc.Xml.Written

/-! ### Around the root element -/

/-- Where the root element is not open. -/
def surroundsRoot : Place → Bool
  | .prolog _ | .epilog => true
  | .subset | .afterSubset | .content | .characterData => false

theorem aroundRoot_space {character : Char} (space : isSpace character = true)
    (markup stray : Scanner Markup) (rest : List Char) :
    Markup.aroundRoot markup stray (character :: rest) = .found .passed rest := by
  refine (Scanner.bind_of_found (Scanner.peek_cons character rest)).trans ?_
  rw [if_pos space]
  exact Scanner.bind_of_found (Scanner.expect_cons character rest)

theorem aroundRoot_opening (markup stray : Scanner Markup) (rest : List Char) :
    Markup.aroundRoot markup stray ('<' :: rest) = markup rest := by
  refine (Scanner.bind_of_found (Scanner.peek_cons '<' rest)).trans ?_
  rw [if_neg (by decide), if_pos rfl]
  exact Scanner.bind_of_found (Scanner.expect_cons '<' rest)

theorem scan_space {place : Place} (surrounds : surroundsRoot place = true) {character : Char}
    (space : isSpace character = true) (rest : List Char) :
    Markup.scan place (character :: rest) = .found .passed rest := by
  cases place with
  | prolog hasDoctype => exact aroundRoot_space space _ _ rest
  | epilog => exact aroundRoot_space space _ _ rest
  | subset | afterSubset | content | characterData => exact nomatch surrounds

theorem scan_comment {place : Place} (surrounds : surroundsRoot place = true)
    {characters : List Char} (without : ¬"--".toList <:+: characters ++ ['-']) (rest : List Char) :
    Markup.scan place ("<!--".toList ++ (characters ++ ("-->".toList ++ rest))) =
      .found .passed rest := by
  cases place with
  | prolog hasDoctype =>
    refine (aroundRoot_opening _ _ _).trans (afterOpening_comment (fun rest => ?_) without rest)
    refine (Scanner.bind_of_found (Scanner.peek_cons '-' rest)).trans ?_
    rw [if_pos rfl]
  | epilog =>
    refine (aroundRoot_opening _ _ _).trans ?_
    exact (Scanner.bind_of_found (Scanner.next_cons '!' _)).trans (comment_append without rest)
  | subset | afterSubset | content | characterData => exact nomatch surrounds

theorem scan_instruction {place : Place} (surrounds : surroundsRoot place = true)
    {target characters : List Char} (named : isName target = true)
    (allowed : target.map Char.toLower ≠ "xml".toList)
    (blank : characters.head?.all isSpace = true)
    (without : ¬"?>".toList <:+: characters) (rest : List Char) :
    Markup.scan place ("<?".toList ++ (target ++ (characters ++ ("?>".toList ++ rest)))) =
      .found .passed rest := by
  cases place with
  | prolog hasDoctype =>
    exact (aroundRoot_opening _ _ _).trans
      (afterOpening_instruction named allowed blank without rest)
  | epilog =>
    refine (aroundRoot_opening _ _ _).trans ?_
    exact (Scanner.bind_of_found (Scanner.next_cons '?' _)).trans
      (instruction_append named allowed blank without rest)
  | subset | afterSubset | content | characterData => exact nomatch surrounds

theorem report_marginal {progress : Progress} (surrounds : surroundsRoot progress.place = true)
    {item : Silent} (marginal : item.isMarginal = true) (wellFormed : item.WellFormed)
    (rest : List Char) : progress.report (item.text ++ rest) = progress.report rest := by
  cases item with
  | sign written =>
    cases written with
    | plain character => exact report_of_passed (scan_space surrounds marginal rest)
    | decimal digits | hexadecimal digits | named name => exact nomatch marginal
  | data characters => exact nomatch marginal
  | comment characters =>
    rw [Silent.text, between_append]
    exact report_of_passed (scan_comment surrounds wellFormed rest)
  | instruction target characters =>
    obtain ⟨named, allowed, blank, without⟩ := wellFormed
    rw [Silent.text, between_append, List.append_assoc]
    exact report_of_passed (scan_instruction surrounds named allowed blank without rest)

theorem report_margin {progress : Progress} (surrounds : surroundsRoot progress.place = true)
    {items : List Silent} (wellFormed : ∀ item ∈ items, item.isMarginal = true ∧ item.WellFormed)
    (rest : List Char) :
    progress.report (items.flatMap Silent.text ++ rest) = progress.report rest := by
  induction items with
  | nil => rfl
  | cons item others inductionHypothesis =>
    obtain ⟨marginal, wellFormedFirst⟩ := wellFormed item (List.mem_cons_self ..)
    rw [List.flatMap_cons, List.append_assoc, report_marginal surrounds marginal wellFormedFirst]
    exact inductionHypothesis fun other member => wellFormed other (List.mem_cons_of_mem _ member)

namespace Document

theorem report_element {document : Document} (wellFormed : document.element.WellFormed .initial)
    {progress : Progress} (takes : TakesElement progress) (outermost : progress.ancestors = [])
    (rest : List Char) :
    progress.report (document.element.text ++ rest) =
      ((progress.moved .epilog).report rest).after document.tree.events := by
  have namespaces : progress.namespaces = .initial := by rw [Progress.namespaces, outermost]
  have past : past progress = progress.moved .epilog := by
    rw [past, outermost]
    rfl
  obtain ⟨_, _, root, content?, _⟩ := document
  rw [← namespaces] at wellFormed
  simp only [element, tree, ← namespaces, ← past] at wellFormed ⊢
  cases content? with
  | none =>
    have followed := report_empty takes wellFormed.1 rest
    simpa [Content.text] using followed
  | some content =>
    obtain ⟨wellFormedTag, wellFormedInner, blank, -⟩ := wellFormed
    have within := report_content (takes.inside root) rfl (List.cons_ne_nil _ _) wellFormedInner
    have followed := report_nested takes wellFormedTag within blank rest
    simpa [Content.text] using followed

/-- What is reported of a document behind its declaration. -/
theorem report_body {document : Document} (wellFormed : document.WellFormed) {progress : Progress}
    (inProlog : progress.place = .prolog false) (outermost : progress.ancestors = [])
    (undeclared : progress.doctype.attributes = []) (notEntered : progress.floor = 0) :
    progress.report document.body =
      { events := document.tree.events, stand? := some (progress.moved .epilog, []) } := by
  have takes : TakesElement progress :=
    { starts := by rw [inProlog]; rfl
      undeclared
      balanced := by rw [notEntered]; exact Nat.zero_le _ }
  have surrounds : surroundsRoot progress.place = true := by
    rw [inProlog]
    rfl
  have surroundsBehind : surroundsRoot (progress.moved .epilog).place = true := rfl
  have before := report_margin surrounds wellFormed.before
  have behind := report_margin surroundsBehind wellFormed.behind []
  have ended : (progress.moved .epilog).report [] =
      { events := [], stand? := some (progress.moved .epilog, []) } := by
    rw [Progress.report_eq, Markup.scan_nil]
  rw [List.append_nil, ended] at behind
  rw [body, List.append_assoc, before, report_element wellFormed.element takes outermost, behind]
  simp [Progress.Report.after]

/-! ### Beginnings -/

theorem undeclared_margin {items : List Silent}
    (wellFormed : ∀ item ∈ items, item.isMarginal = true ∧ item.WellFormed) {rest : List Char}
    (undeclared : Undeclared rest) : Undeclared (items.flatMap Silent.text ++ rest) := by
  cases items with
  | nil => exact undeclared
  | cons item others =>
    obtain ⟨first, second, behind, same, -⟩ := undeclared.enough
    have given : others.flatMap Silent.text ++ rest ≠ [] :=
      List.append_ne_nil_of_right_ne_nil _ (by rw [same]; exact List.cons_ne_nil _ _)
    obtain ⟨marginal, wellFormedItem⟩ := wellFormed item (List.mem_cons_self ..)
    rw [List.flatMap_cons, List.append_assoc]
    cases item with
    | sign written =>
      cases written with
      | plain character => exact .of_space marginal given
      | decimal digits | hexadecimal digits | named name => exact nomatch marginal
    | data characters => exact nomatch marginal
    | comment characters =>
      rw [Silent.text, between_append]
      exact .of_second (by decide) _
    | instruction target characters =>
      obtain ⟨named, allowed, blank, -⟩ := wellFormedItem
      have notXml : target ≠ "xml".toList := fun same => allowed (by rw [same]; decide)
      rw [Silent.text, between_append, List.append_assoc]
      refine .of_target named notXml ?_ (by simp)
      cases characters with
      | nil => exact stops_cons (by decide) _
      | cons first others =>
        exact stops_cons (isNameCharacter_of_word (isWordCharacter_of_isSpace blank)) _

theorem undeclared_tag {tag : StartTag} (proper : tag.label.isProper = true) (rest : List Char) :
    Undeclared (tag.text ++ rest) := by
  obtain ⟨first, others, same, starts, -⟩ := Label.exists_of_isProper proper
  rw [StartTag.text_append, same, List.cons_append]
  refine .of_second ?_ _
  rintro rfl
  exact absurd starts (by decide)

theorem wellFormed_root {document : Document} (wellFormed : document.WellFormed) :
    document.root.WellFormed .initial := by
  obtain ⟨_, _, root, content?, _⟩ := document
  have wellFormedElement := wellFormed.element
  cases content? with
  | none => exact wellFormedElement.1
  | some content => exact wellFormedElement.1

theorem exists_element_text (document : Document) :
    ∃ behind, document.element.text = document.root.text ++ behind := by
  obtain ⟨_, _, root, content?, _⟩ := document
  cases content? with
  | none => exact ⟨_, List.append_assoc ..⟩
  | some content => simp [element, Content.text]

/-- Without its declaration a document does not begin like one that has a declaration. -/
theorem undeclared_body {document : Document} (wellFormed : document.WellFormed) :
    Undeclared document.body := by
  obtain ⟨behind, same⟩ := document.exists_element_text
  rw [body, List.append_assoc, same, List.append_assoc]
  exact undeclared_margin wellFormed.before
    (undeclared_tag (wellFormed_root wellFormed).label _)

/-! ### Bytes -/

theorem isAllowed_of_mem {document : Document} (wellFormed : document.WellFormed) :
    ∀ character ∈ document.text, isAllowed character = true :=
  List.all_eq_true.1 wellFormed.allowed

/-- The first two characters of a document, of which the first is one of ASCII. -/
theorem exists_text {document : Document} (wellFormed : document.WellFormed) :
    ∃ first second rest, document.text = first :: second :: rest ∧ first.toNat < 0x80 := by
  unfold text
  cases document.declaration? with
  | none => exact (undeclared_body wellFormed).enough
  | some declaration => exact ⟨'<', '?', _, rfl, by decide⟩

/-- The preamble of a document is its declaration, if it has one. -/
theorem exists_read {document : Document} (wellFormed : document.WellFormed) :
    ∃ standalone, Preamble.read .utf8 (Utf8.encode (document.text.map .char)) = .ok (some
      { coding := .utf8, standalone, rest := Utf8.encode (document.body.map .char) }) := by
  have allowed := isAllowed_of_mem wellFormed
  unfold text at allowed ⊢
  cases declared : document.declaration? with
  | some declaration =>
    rw [declared] at allowed
    exact Declaration.read_text (wellFormed.declaration declaration declared) allowed
  | none =>
    rw [declared] at allowed
    have begins := (undeclared_body wellFormed).undeclared
    unfold Preamble.read
    rw [Coding.decode_encode allowed]
    simp only [Option.elim_none, List.nil_append, begins]
    exact ⟨false, rfl⟩

/-- The encoding is told by its mark or, as no byte is zero, by the first two bytes. -/
theorem detect?_bytes {document : Document} (wellFormed : document.WellFormed) (marked : Bool) :
    Preamble.detect? (document.bytes marked) =
      some (.utf8, Utf8.encode (document.text.map .char)) := by
  cases marked with
  | true => rfl
  | false =>
    obtain ⟨first, second, rest, same, ascii⟩ := exists_text wellFormed
    obtain ⟨byte, others, begins⟩ := Utf8.exists_cons_encodeValue second.toNat
    have encoded : Utf8.encode (document.text.map .char) =
        first.toNat.toUInt8 :: byte :: (others ++ Utf8.encode (rest.map .char)) := by
      rw [same, Utf8.encode_cons, Utf8.encode_cons, Utf8.encodeValue_ascii ascii, begins]
      rfl
    have nonzero := ne_zero_of_mem_encode (isAllowed_of_mem wellFormed)
    have small : first.toNat.toUInt8 < 0x80 := by
      rw [UInt8.lt_iff_toNat_lt, Utf8.toNat_toUInt8 _ (by omega)]
      exact ascii
    unfold bytes
    rw [if_neg (by decide), List.nil_append]
    rw [encoded] at nonzero ⊢
    have unmarked : Preamble.Unmarked first.toNat.toUInt8 byte
        (others ++ Utf8.encode (rest.map .char)) :=
      ⟨fun mark => absurd (mark.1 ▸ small) (by decide),
        fun mark => absurd (mark.1 ▸ small) (by decide),
        fun mark => absurd (mark.1 ▸ small) (by decide)⟩
    rw [Preamble.detect?_of_unmarked unmarked, if_neg (nonzero _ (by simp)),
      if_neg (nonzero _ (by simp))]

/-- A document that arrives whole is read without an error, and what is reported of it is its tree.
-/
theorem look_bytes {document : Document} (wellFormed : document.WellFormed) (marked : Bool) :
    (({} : Reader).look (document.bytes marked)).defect? = none ∧
      (({} : Reader).look (document.bytes marked)).events = document.tree.events := by
  obtain ⟨standalone, read⟩ := exists_read wellFormed
  have allowed : ∀ character ∈ document.body, isAllowed character = true := fun character member =>
    isAllowed_of_mem wellFormed character (List.mem_append_right _ member)
  have report : Progress.report { doctype := { standalone } } document.body =
      { events := document.tree.events
        stand? := some ({ place := .epilog, doctype := { standalone } }, []) } :=
    report_body wellFormed rfl rfl rfl rfl
  have looks : ({} : Reader).look (document.bytes marked) =
      { events := document.tree.events
        stand := .ok
          { coding? := some .utf8
            hasPreamble := true
            progress := { place := .epilog, doctype := { standalone } } } } := by
    unfold Reader.look
    simp only [detect?_bytes wellFormed marked, Reader.begun, read, Reader.followed,
      Coding.decode_encode allowed, List.nil_append, Reader.knowing, report]
    rfl
  rw [looks]
  exact ⟨rfl, rfl⟩

/-! ### Elements below the root -/

theorem arePlain_trees {content : Content} {outer : Namespaces}
    (wellFormed : content.WellFormed outer) : Tree.ArePlain (content.trees outer) := by
  have plainName {tag : StartTag} {outer : Namespaces} (wellFormed : tag.WellFormed outer) :
      '\x7d' ∉ (tag.name outer).localName := by
    rw [StartTag.name, StartTag.localName_expand]
    exact not_mem_of_isName ((Label.isProper_iff _).1 wellFormed.label).2 (by decide)
  induction content generalizing outer with
  | nothing => exact trivial
  | silent item rest inductionHypothesis => exact inductionHypothesis wellFormed.2.2
  | empty tag rest inductionHypothesis =>
    exact ⟨⟨plainName wellFormed.1, trivial⟩, inductionHypothesis wellFormed.2⟩
  | nested tag inner spaces rest inductionInner inductionRest =>
    exact ⟨⟨plainName wellFormed.1, inductionInner wellFormed.2.1⟩,
      inductionRest wellFormed.2.2.2⟩

theorem trees_element (document : Document) :
    document.element.trees .initial = [document.tree] := by
  obtain ⟨_, _, root, content?, _⟩ := document
  cases content? <;> rfl

theorem isPlain_tree {document : Document} (wellFormed : document.WellFormed) :
    document.tree.IsPlain := by
  have plain := arePlain_trees wellFormed.element
  rw [trees_element] at plain
  exact plain.1

theorem isMisled_eq_false {chunks : List Bytes} (nonzero : ∀ byte ∈ chunks.flatten, byte ≠ 0) :
    Preamble.isMisled chunks = false := by
  fun_induction Preamble.isMisled chunks with
  | case1 => rfl
  | case2 rest inductionHypothesis => exact inductionHypothesis nonzero
  | case3 byte rest =>
    have noZero : rest.flatten.head? ≠ some 0 := fun zero =>
      nonzero 0 (List.mem_append_right _ (List.mem_of_head? zero)) rfl
    simp [noZero]
  | case4 => rfl

theorem ne_zero_of_mem_bytes {document : Document} (wellFormed : document.WellFormed)
    (marked : Bool) : ∀ byte ∈ document.bytes marked, byte ≠ 0 := by
  intro byte member
  rcases List.mem_append.1 member with mark | text
  · cases marked with
    | false => exact nomatch mark
    | true =>
      simp only [if_true, List.mem_cons, List.not_mem_nil, or_false] at mark
      rcases mark with rfl | rfl | rfl <;> decide
  · exact ne_zero_of_mem_encode (isAllowed_of_mem wellFormed) byte text

/-- However a document is cut into chunks, the elements below its root are delivered. -/
theorem ofChunks_bytes (url : Text) {document : Document} (wellFormed : document.WellFormed)
    {marked : Bool} {chunks : List Bytes} (body : chunks.flatten = document.bytes marked) :
    Element.ofChunks url none {} 0 chunks =
      .ofList (document.tree.descendants.map Tree.element) := by
  have ready : ({} : Reader).Ready chunks :=
    ⟨fun _ => rfl, fun _ _ =>
      isMisled_eq_false (body ▸ ne_zero_of_mem_bytes wellFormed marked)⟩
  obtain ⟨sound, reported⟩ := look_bytes wellFormed marked
  have delivers := Element.delivers_ofChunks url ready 0
  rw [List.nil_append, body, Element.Delivers, sound] at delivers
  rw [delivers, reported, Tree.belowRoot_root _ (isPlain_tree wellFormed)]

end Document

end ApiDoc.Xml.Written
