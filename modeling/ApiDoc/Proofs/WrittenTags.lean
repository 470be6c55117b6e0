/-
This file proves that a start tag means what was written: its attributes have the values that their
signs make up, its declarations bind what they say, and its names are those that the bindings in
force expand them to.
-/
import ApiDoc.Proofs.TreeEvents
import ApiDoc.Proofs.WrittenScanning
import Mathlib.Data.List.Nodup
import Mathlib.Data.List.TakeWhile

namespace ApiDoc.Xml.Written

/-! ### Values -/

/-- The text of the pieces is the value of the signs, whatever other entities there may be. -/
theorem expandPieces?_signs (textOf? : List Char → Option (List Char)) {signs : List Sign}
    (proper : ∀ sign ∈ signs, sign.isProper = true) :
    Doctype.expandPieces? textOf? (signs.map Sign.piece) = some (Sign.value signs) := by
  fun_induction Sign.value signs with
  | case1 => rfl
  | case2 rest inductionHypothesis =>
    have known := inductionHypothesis fun sign member =>
      proper sign (List.mem_cons_of_mem _ (List.mem_cons_of_mem _ member))
    simp only [List.map_cons, Sign.piece, Doctype.expandPieces?, known, Option.map_some]
  | case3 character rest noLineEnd inductionHypothesis =>
    have known := inductionHypothesis fun sign member => proper sign (List.mem_cons_of_mem _ member)
    rw [List.map_cons, Sign.piece, Doctype.expandPieces?, known, Option.map_some]
    intro pieces lineFeed carriageReturn
    cases rest with
    | nil => cases lineFeed
    | cons second others =>
      obtain ⟨same, -⟩ := List.cons.inj lineFeed
      cases second <;> cases same
      exact noLineEnd others rfl carriageReturn
  | case4 sign rest _ other inductionHypothesis =>
    have known := inductionHypothesis fun sign member => proper sign (List.mem_cons_of_mem _ member)
    have properFirst := proper sign (List.mem_cons_self ..)
    simp only [Sign.isProper, Bool.and_eq_true] at properFirst
    obtain ⟨character, meant⟩ := Option.isSome_iff_exists.1 properFirst.1
    rw [meant]
    cases sign with
    | plain character => exact absurd rfl (other character)
    | decimal digits =>
      simp only [Sign.character?] at meant
      simp [Sign.piece, Doctype.expandPieces?, known, meant]
    | hexadecimal digits =>
      simp only [Sign.character?] at meant
      simp [Sign.piece, Doctype.expandPieces?, known, meant]
    | named name =>
      simp only [Sign.character?] at meant
      simp [Sign.piece, Doctype.expandPieces?, known, meant]

/-! ### Names -/

theorem not_mem_of_isName {name : List Char} (proper : isName name = true) {character : Char}
    (other : isNameCharacter character = false) : character ∉ name := by
  obtain ⟨first, rest, rfl, starts, goesOn⟩ := exists_of_isName proper
  intro member
  have named : isNameCharacter character = true := by
    rcases List.mem_cons.1 member with rfl | inRest
    · exact isNameCharacter_of_isNameStart starts
    · exact goesOn character inRest
  rw [other] at named
  exact nomatch named

theorem parts_text {label : Label} (proper : label.isProper = true) :
    Namespaces.parts label.text = (label.qualifier?, label.localName) := by
  obtain ⟨qualifier?, localName⟩ := label
  obtain ⟨properQualifier, properLocal⟩ := (Label.isProper_iff _).1 proper
  cases qualifier? with
  | none =>
    have noColon : ∀ character ∈ localName, decide (character ≠ ':') = true :=
      fun character member =>
      decide_eq_true fun same => not_mem_of_isName properLocal (by decide) (same ▸ member)
    have behind : localName.dropWhile (· ≠ ':') = [] := List.dropWhile_eq_nil_iff.2 noColon
    simp only [Namespaces.parts, Label.text, behind]
  | some qualifier =>
    have noColon : ∀ character ∈ qualifier, decide (character ≠ ':') = true :=
      fun character member =>
      decide_eq_true fun same =>
        not_mem_of_isName (properQualifier _ rfl) (by decide) (same ▸ member)
    have behind : (qualifier ++ ':' :: localName).dropWhile (· ≠ ':') = ':' :: localName := by
      rw [List.dropWhile_append_of_pos noColon]
      rfl
    have before : (qualifier ++ ':' :: localName).takeWhile (· ≠ ':') = qualifier := by
      rw [List.takeWhile_append_of_pos noColon]
      simp
    simp only [Namespaces.parts, Label.text, behind, before]

theorem declares?_text {attribution : Attribution} (proper : attribution.label.isProper = true) :
    Namespaces.declares? attribution.label.text = attribution.binds? := by
  unfold Namespaces.declares? Attribution.binds?
  rw [parts_text proper]
  cases named : attribution.label.qualifier? with
  | none =>
    have same : attribution.label.text = attribution.label.localName := by rw [Label.text, named]
    rw [same]
  | some qualifier =>
    have differs : attribution.label.text ≠ "xmlns".toList := by
      intro same
      have colon : ':' ∈ attribution.label.text := by simp [Label.text, named]
      rw [same] at colon
      exact absurd colon (by decide)
    rw [if_neg differs]

theorem bind?_of_mayBind {bound uri : List Char} (allowed : mayBind bound uri = true)
    (namespaces : Namespaces) : namespaces.bind? bound uri = some ((bound, uri) :: namespaces) := by
  simp only [mayBind, Bool.and_eq_true, decide_eq_true_eq] at allowed
  obtain ⟨⟨⟨⟨given, notDeclaring⟩, notDeclarations⟩, noBrace⟩, reserved⟩ := allowed
  unfold Namespaces.bind?
  rw [if_neg, if_neg, if_neg]
  · simpa using reserved
  · rintro (same | same | brace)
    · exact notDeclaring same
    · exact notDeclarations same
    · simp [brace] at noBrace
  · rintro ⟨some, rfl⟩
    simp [some] at given

/-! ### Tags -/

theorem mapM_map_of_some {α β γ : Type} {change : α → β} {partial? : β → Option γ} {total : α → γ}
    {items : List α} (known : ∀ item ∈ items, partial? (change item) = some (total item)) :
    (items.map change).mapM partial? = some (items.map total) := by
  induction items with
  | nil => rfl
  | cons item others inductionHypothesis =>
    have knownOthers := inductionHypothesis fun other member =>
      known other (List.mem_cons_of_mem _ member)
    simp [List.mapM_cons, known item (List.mem_cons_self ..), knownOthers]

namespace StartTag

/-- A document declares nothing of its elements' attributes. -/
theorem given?_written {tag : StartTag} {doctype : Doctype} (plain : doctype.attributes = [])
    (proper : ∀ attribution ∈ tag.attributions, attribution.isProper = true) (isEmpty : Bool) :
    (tag.written isEmpty).given? doctype =
      some (tag.attributions.map fun attribution =>
        (attribution.label.text, attribution.value)) := by
  refine mapM_map_of_some fun attribution member => ?_
  have signs := ((Attribution.isProper_iff _).1 (proper attribution member)).2.2.2.2.2.2
  have noRules : WrittenTag.isTokenized (doctype.rulesOf (tag.written isEmpty).name)
      attribution.written.name = false := by
    simp [WrittenTag.isTokenized, Doctype.rulesOf, plain]
  rw [noRules]
  simp only [Doctype.value?, Attribution.written,
    expandPieces?_signs _ fun sign among => (signs sign among).1]
  rfl

theorem defaults_written {tag : StartTag} {doctype : Doctype} (plain : doctype.attributes = [])
    (isEmpty : Bool) : (tag.written isEmpty).defaults doctype = [] := by
  simp [WrittenTag.defaults, Doctype.rulesOf, plain]

theorem bindings?_map {attributions : List Attribution}
    (proper : ∀ attribution ∈ attributions, attribution.label.isProper = true)
    (allowed : ∀ attribution ∈ attributions, ∀ bound ∈ attribution.binds?,
      mayBind bound attribution.value = true) (outer : Namespaces) :
    WrittenTag.bindings? outer
        (attributions.map fun attribution => (attribution.label.text, attribution.value)) =
      some (attributions.foldl (fun scope attribution => match attribution.binds? with
        | some bound => (bound, attribution.value) :: scope
        | none => scope) outer) := by
  unfold WrittenTag.bindings?
  induction attributions generalizing outer with
  | nil => rfl
  | cons attribution others inductionHypothesis =>
    have further := inductionHypothesis
      (fun other member => proper other (List.mem_cons_of_mem _ member))
      (fun other member => allowed other (List.mem_cons_of_mem _ member))
    have here := allowed attribution (List.mem_cons_self ..)
    rw [List.map_cons, List.foldlM_cons, List.foldl_cons]
    simp only [declares?_text (proper attribution (List.mem_cons_self ..))]
    cases binds : attribution.binds? with
    | none => exact further outer
    | some bound =>
      simp only [bind?_of_mayBind (here bound binds)]
      exact further _

theorem bindings?_written {tag : StartTag} {outer : Namespaces}
    (wellFormed : tag.WellFormed outer) :
    WrittenTag.bindings? outer
        (tag.attributions.map fun attribution => (attribution.label.text, attribution.value)) =
      some (tag.scope outer) :=
  bindings?_map (fun attribution member =>
      Attribution.isProper_label (wellFormed.attributions attribution member))
    wellFormed.bindings outer

theorem localName_expand (label : Label) (scope : Namespaces) (default : List Char) :
    (label.expand scope default).localName = label.localName := by
  unfold Label.expand
  split <;> rfl

theorem elementName?_text {label : Label} (proper : label.isProper = true) {scope : Namespaces}
    (bound : label.isBound scope = true) :
    scope.elementName? label.text =
      some (label.expand scope ((scope.find? []).getD [])).resolved := by
  unfold Namespaces.elementName?
  rw [parts_text proper]
  unfold Label.expand
  unfold Label.isBound at bound
  cases named : label.qualifier? with
  | none =>
    have same : label.text = label.localName := by rw [Label.text, named]
    rw [same]
    rfl
  | some qualifier =>
    rw [named] at bound
    obtain ⟨uri, found⟩ := Option.isSome_iff_exists.1 bound
    simp only [found]
    rfl

theorem attributeName?_text {label : Label} (proper : label.isProper = true) {scope : Namespaces}
    (bound : label.isBound scope = true) :
    scope.attributeName? label.text = some (label.expand scope []).resolved := by
  unfold Namespaces.attributeName?
  rw [parts_text proper]
  unfold Label.expand
  unfold Label.isBound at bound
  cases named : label.qualifier? with
  | none =>
    have same : label.text = label.localName := by rw [Label.text, named]
    rw [same]
    rfl
  | some qualifier =>
    rw [named] at bound
    obtain ⟨uri, found⟩ := Option.isSome_iff_exists.1 bound
    simp only [found]
    rfl

/-- Names with different parts are reported under different names. -/
theorem resolved_injective {first second : ExpandedName} (proper : isName first.localName = true)
    (properToo : isName second.localName = true) (same : first.resolved = second.resolved) :
    first = second := by
  have plain : '\x7d' ∉ first.localName := not_mem_of_isName proper (by decide)
  have plainToo : '\x7d' ∉ second.localName := not_mem_of_isName properToo (by decide)
  have sameLocal : first.localName = second.localName := by
    have points := ExpandedName.localName_resolved plain
    rw [same, ExpandedName.localName_resolved plainToo] at points
    exact ((List.map_inj_right fun _ _ => CodePoint.char.inj).1 points).symm
  obtain ⟨uri, localName⟩ := first
  obtain ⟨uriToo, localNameToo⟩ := second
  obtain rfl : localName = localNameToo := sameLocal
  have noBrace : '\x7b' ∉ localName := not_mem_of_isName proper (by decide)
  simp only [ExpandedName.resolved, Namespaces.resolved, List.isEmpty_iff] at same
  split at same <;> split at same
  · simp_all
  · exact absurd (same ▸ List.mem_cons_self ..) noBrace
  · exact absurd (same ▸ List.mem_cons_self ..) noBrace
  · simpa using same

theorem isName_of_mem_attributes {tag : StartTag} {outer : Namespaces}
    (wellFormed : tag.WellFormed outer) {name : ExpandedName}
    (member : name ∈ (tag.attributes outer).map (·.1)) : isName name.localName = true := by
  simp only [attributes, List.map_map, List.mem_map, Function.comp_apply] at member
  obtain ⟨attribution, among, rfl⟩ := member
  have proper := wellFormed.attributions attribution (List.mem_filter.1 among).1
  rw [localName_expand]
  exact ((Label.isProper_iff _).1 (Attribution.isProper_label proper)).2

/-- The tag is resolved to the name, the attributes and the bindings that it was written for. -/
theorem resolve?_written {tag : StartTag} {outer : Namespaces} {doctype : Doctype}
    (wellFormed : tag.WellFormed outer) (plain : doctype.attributes = []) (isEmpty : Bool) :
    (tag.written isEmpty).resolve? doctype outer = some
      { name := (tag.name outer).resolved
        attributes := (tag.attributes outer).map fun (name, value) => (name.resolved, value)
        namespaces := tag.scope outer } := by
  have properLabels : ∀ attribution ∈ tag.attributions, attribution.label.isProper = true :=
    fun attribution member =>
      Attribution.isProper_label (wellFormed.attributions attribution member)
  have properAttributes : (tag.attributions.map fun attribution =>
        (attribution.label.text, attribution.value)).filter
        (fun entry => (Namespaces.declares? entry.1).isNone) =
      tag.proper.map fun attribution => (attribution.label.text, attribution.value) := by
    rw [List.filter_map, proper]
    refine congrArg _ (List.filter_congr fun attribution member => ?_)
    exact congrArg Option.isNone (declares?_text (properLabels attribution member))
  have named : (tag.proper.map fun attribution => (attribution.label.text, attribution.value)).mapM
      (fun entry => ((tag.scope outer).attributeName? entry.1).map (·, entry.2)) =
      some ((tag.attributes outer).map fun entry => (entry.1.resolved, entry.2)) := by
    rw [attributes, List.map_map]
    refine mapM_map_of_some fun attribution member => ?_
    have among : attribution ∈ tag.attributions := (List.mem_filter.1 member).1
    simp only [attributeName?_text (properLabels attribution among)
      (wellFormed.properBound attribution member)]
    rfl
  have labels : ((tag.attributions.map fun attribution =>
      (attribution.label.text, attribution.value)).map (·.1)).Nodup := by
    simpa [Function.comp_def] using wellFormed.labelsDistinct
  have distinct : (((tag.attributes outer).map fun entry =>
      (entry.1.resolved, entry.2)).map (·.1)).Nodup := by
    have same : ((tag.attributes outer).map fun entry => (entry.1.resolved, entry.2)).map (·.1) =
        ((tag.attributes outer).map (·.1)).map ExpandedName.resolved := by simp
    rw [same]
    exact wellFormed.namesDistinct.map_on fun first among second amongToo =>
      resolved_injective (isName_of_mem_attributes wellFormed among)
        (isName_of_mem_attributes wellFormed amongToo)
  unfold WrittenTag.resolve?
  simp only [given?_written plain wellFormed.attributions, defaults_written plain,
    Option.bind_eq_bind, Option.bind_some, List.append_nil, bindings?_written wellFormed,
    show (tag.written isEmpty).name = tag.label.text from rfl,
    elementName?_text wellFormed.label wellFormed.labelBound, properAttributes, named]
  rw [if_pos ⟨labels, distinct⟩]
  rfl

end StartTag

end ApiDoc.Xml.Written
