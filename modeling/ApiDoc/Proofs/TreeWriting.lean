/-
This file writes element trees out: every tree whose names and values may stand in a document is
what some document stands for. So no tree is left out where something is proved of all documents
that are written. The writer makes the plainest choices: a value is written as the numbers of its
characters, and every element declares anew the namespaces that it needs, each under a prefix of its
own.
-/
import ApiDoc.Proofs.DeliveredDescendants
import Mathlib.Data.List.Dedup

namespace ApiDoc

namespace Xml

/-! ### Trees that can be written -/

/-- An element or an attribute can have the name. -/
structure ExpandedName.IsProper (name : ExpandedName) : Prop where
  localName : Written.isName name.localName = true
  allowed : ∀ character ∈ name.uri, isAllowed character = true
  unbraced : '\x7d' ∉ name.uri
  notDeclarations : name.uri ≠ Namespaces.xmlnsNamespace

namespace Tree

/-- An element can have the name and the attributes: no attribute is given twice, and none has the
name of a declaration. -/
structure HasProperTag (name : ExpandedName) (attributes : List (ExpandedName × List Char)) :
    Prop where
  name : name.IsProper
  names : ∀ entry ∈ attributes, entry.1.IsProper
  values : ∀ entry ∈ attributes, ∀ character ∈ entry.2, isAllowed character = true
  undeclaring : ∀ entry ∈ attributes, entry.1 ≠ ⟨[], "xmlns".toList⟩
  distinct : (attributes.map (·.1)).Nodup

mutual

/-- The element and all elements below it can be written. -/
def IsProper : Tree → Prop
  | .node name attributes children => HasProperTag name attributes ∧ AreProper children

/-- Elements in a row and all elements below them can be written. -/
def AreProper : List Tree → Prop
  | [] => True
  | tree :: others => tree.IsProper ∧ AreProper others

end

end Tree

namespace Written

theorem between_of_covers {ranges : CodeRanges} {least greatest value : Nat}
    (within : ∀ range ∈ ranges, least ≤ range.1 ∧ range.2 ≤ greatest)
    (covers : ranges.covers value = true) : least ≤ value ∧ value ≤ greatest := by
  obtain ⟨range, member, lies⟩ := List.any_eq_true.1 covers
  simp only [Bool.and_eq_true, decide_eq_true_eq] at lies
  obtain ⟨low, high⟩ := within range member
  exact ⟨low.trans lies.1, lies.2.trans high⟩

theorem isAllowed_of_between {character : Char} (low : 0x20 ≤ character.toNat)
    (high : character.toNat ≤ 0xD7A3) : isAllowed character = true := by
  have differs (other : Char) (beyond : 0xD7A3 < other.toNat) : character ≠ other := by
    rintro rfl
    exact absurd high (Nat.not_le.2 beyond)
  simp [isAllowed, low, differs '\uFFFE' (by decide), differs '\uFFFF' (by decide)]

theorem isAllowed_of_isNameCharacter {character : Char} (named : isNameCharacter character = true) :
    isAllowed character = true := by
  obtain ⟨low, high⟩ : 0x20 ≤ character.toNat ∧ character.toNat ≤ 0xD7A3 := by
    rcases Bool.or_eq_true_iff.1 named with starts | goesOn
    · exact between_of_covers (by decide +kernel) starts
    · exact between_of_covers (by decide +kernel) goesOn
  exact isAllowed_of_between low high

/-! ### Values -/

namespace Sign

/-- A character as its number. -/
def numbered (character : Char) : Sign := .decimal (Nat.toDigits 10 character.toNat)

theorem digit?_of_isDigit {digit : Char} (decimal : digit.isDigit = true) :
    Reference.digit? 10 digit = some (digit.toNat - '0'.toNat) := by
  simp only [Char.isDigit, Bool.and_eq_true, decide_eq_true_eq] at decimal
  have below : digit.toNat - '0'.toNat < 10 := by
    have most : digit.toNat ≤ 57 := decimal.2
    have zero : '0'.toNat = 48 := rfl
    omega
  have between : '0' ≤ digit ∧ digit ≤ '9' := decimal
  simp only [Reference.digit?, if_pos between, Option.filter, decide_eq_true below, if_true]

theorem areDigits_toDigits (number : Nat) : areDigits 10 (Nat.toDigits 10 number) = true := by
  have known : ∀ digit ∈ Nat.toDigits 10 number, (Reference.digit? 10 digit).isSome = true := by
    intro digit member
    rw [digit?_of_isDigit (Nat.isDigit_of_mem_toDigits (by decide) (by decide) member)]
    rfl
  rw [areDigits, Bool.and_eq_true, List.all_eq_true]
  exact ⟨by simp [Nat.toDigits_ne_nil], known⟩

theorem valueOf_toDigits (number : Nat) :
    Reference.valueOf 10 (Nat.toDigits 10 number) = number := by
  refine Eq.trans ?_ (@Nat.ofDigitChars_ten_toDigits number)
  rw [Nat.ofDigitChars_eq_foldl, Reference.valueOf]
  refine List.foldl_ext _ _ _ fun value digit member => ?_
  rw [digit?_of_isDigit (Nat.isDigit_of_mem_toDigits (by decide) (by decide) member), Nat.mul_comm]
  rfl

theorem character?_numbered {character : Char} (allowed : isAllowed character = true) :
    (numbered character).character? = some character := by
  have valid : character.toNat.isValidChar := character.valid
  rw [numbered, character?, valueOf_toDigits, Reference.characterOf?, Char.ofNat_toNat,
    if_pos ⟨valid, allowed⟩]

theorem isProper_numbered {character : Char} (allowed : isAllowed character = true) :
    (numbered character).isProper = true := by
  unfold isProper
  rw [character?_numbered allowed]
  exact areDigits_toDigits _

theorem value_numbered {characters : List Char}
    (allowed : ∀ character ∈ characters, isAllowed character = true) :
    value (characters.map numbered) = characters := by
  induction characters with
  | nil => rfl
  | cons character rest inductionHypothesis =>
    have further := inductionHypothesis fun other member =>
      allowed other (List.mem_cons_of_mem _ member)
    have meant := character?_numbered (allowed character (List.mem_cons_self ..))
    rw [List.map_cons, numbered, value, further, ← numbered, meant]
    · rfl
    · nofun
    · nofun

end Sign

/-! ### Names -/

/-- What stands for the namespace at a position. -/
def qualifierAt (position : Nat) : List Char := List.replicate (position + 1) 'n'

theorem isName_qualifierAt (position : Nat) : isName (qualifierAt position) = true := by
  rw [qualifierAt, List.replicate_succ, isName, Bool.and_eq_true, List.all_eq_true]
  refine ⟨by decide, fun character member => ?_⟩
  rw [List.eq_of_mem_replicate member]
  decide

theorem qualifierAt_injective : Function.Injective qualifierAt := fun first second same => by
  simpa [qualifierAt] using congrArg List.length same

theorem qualifierAt_ne {text : List Char} (other : text.head? ≠ some 'n') (position : Nat) :
    qualifierAt position ≠ text := by
  rintro rfl
  exact other rfl

/-- The name that is written where each namespace is bound to what stands for its position. -/
def label (uris : List (List Char)) (name : ExpandedName) : Label where
  qualifier? :=
    if name.uri = [] then none
    else if name.uri = Namespaces.xmlNamespace then some "xml".toList
    else some (qualifierAt (uris.idxOf name.uri))
  localName := name.localName

/-- The namespaces of names that a document has to declare. -/
def declared (names : List ExpandedName) : List (List Char) :=
  ((names.map (·.uri)).filter fun uri => uri ≠ [] && uri ≠ Namespaces.xmlNamespace).dedup

/-- A name is written alone, behind the prefix that is reserved, or behind that of a position. -/
theorem qualifier?_label (uris : List (List Char)) (name : ExpandedName) :
    name.uri = [] ∧ (label uris name).qualifier? = none ∨
    name.uri = Namespaces.xmlNamespace ∧ (label uris name).qualifier? = some "xml".toList ∨
    (name.uri ≠ [] ∧ name.uri ≠ Namespaces.xmlNamespace) ∧
      (label uris name).qualifier? = some (qualifierAt (uris.idxOf name.uri)) := by
  unfold label
  split
  · exact .inl ⟨‹_›, rfl⟩
  · split
    · exact .inr (.inl ⟨‹_›, rfl⟩)
    · exact .inr (.inr ⟨⟨‹_›, ‹_›⟩, rfl⟩)

theorem isProper_label {name : ExpandedName} (proper : name.IsProper) (uris : List (List Char)) :
    (label uris name).isProper = true := by
  refine (Label.isProper_iff _).2 ⟨?_, proper.localName⟩
  obtain ⟨-, qualified⟩ | ⟨-, qualified⟩ | ⟨-, qualified⟩ := qualifier?_label uris name <;>
    rw [qualified]
  · nofun
  · rintro _ ⟨⟩
    decide
  · rintro _ ⟨⟩
    exact isName_qualifierAt _

theorem mem_declared {names : List ExpandedName} {uri : List Char} :
    uri ∈ declared names ↔
      (∃ name ∈ names, name.uri = uri) ∧ uri ≠ [] ∧ uri ≠ Namespaces.xmlNamespace := by
  simp [declared]

theorem Label.text_injective {first second : Label} (proper : first.isProper = true)
    (properToo : second.isProper = true) (same : first.text = second.text) : first = second := by
  have parts := (parts_text proper).symm.trans ((congrArg _ same).trans (parts_text properToo))
  cases first
  cases second
  cases parts
  rfl

/-! ### Scopes -/

/-- The bindings that every element here stands in: nothing is bound by default. -/
structure IsPlain (scope : Namespaces) : Prop where
  xml : scope.find? "xml".toList = some Namespaces.xmlNamespace
  default : scope.find? [] = none

theorem isPlain_initial : IsPlain .initial := ⟨rfl, rfl⟩

/-- The bindings of namespaces at their positions. -/
def bindings (uris : List (List Char)) : Namespaces :=
  uris.map fun uri => (qualifierAt (uris.idxOf uri), uri)

/-- The bindings within an element that declares some namespaces. -/
def scopeOf (uris : List (List Char)) (outer : Namespaces) : Namespaces :=
  (bindings uris).reverse ++ outer

theorem find?_append (first second : Namespaces) (wanted : List Char) :
    Namespaces.find? (first ++ second) wanted = (first.find? wanted).or (second.find? wanted) := by
  unfold Namespaces.find?
  rw [List.find?_append, Option.map_or]

/-- What is bound to one namespace only is bound to it. -/
theorem find?_of_unique {namespaces : Namespaces} {wanted uri : List Char}
    (bound : (wanted, uri) ∈ namespaces)
    (only : ∀ binding ∈ namespaces, binding.1 = wanted → binding.2 = uri) :
    namespaces.find? wanted = some uri := by
  cases search : namespaces.find? wanted with
  | none =>
    rw [Namespaces.find?, Option.map_eq_none_iff, List.find?_eq_none] at search
    exact absurd (decide_eq_true rfl) (search _ bound)
  | some found =>
    rw [Namespaces.find?, Option.map_eq_some_iff] at search
    obtain ⟨binding, first, rfl⟩ := search
    have same := List.find?_some first
    exact congrArg some (only binding (List.mem_of_find?_eq_some first) (of_decide_eq_true same))

theorem find?_scopeOf_of_ne {wanted : List Char} (other : wanted.head? ≠ some 'n')
    (uris : List (List Char)) (outer : Namespaces) :
    (scopeOf uris outer).find? wanted = outer.find? wanted := by
  have without : Namespaces.find? (bindings uris).reverse wanted = none := by
    rw [Namespaces.find?, Option.map_eq_none_iff, List.find?_eq_none]
    intro binding member
    obtain ⟨uri, -, rfl⟩ := List.mem_map.1 (List.mem_reverse.1 member)
    simpa using qualifierAt_ne other _
  rw [scopeOf, find?_append, without, Option.none_or]

/-- What stands for a namespace is bound to it, whatever it is bound to outside. -/
theorem find?_scopeOf {uris : List (List Char)} {uri : List Char} (member : uri ∈ uris)
    (outer : Namespaces) :
    (scopeOf uris outer).find? (qualifierAt (uris.idxOf uri)) = some uri := by
  have found : Namespaces.find? (bindings uris).reverse (qualifierAt (uris.idxOf uri)) =
      some uri := by
    refine find?_of_unique (List.mem_reverse.2 (List.mem_map.2 ⟨uri, member, rfl⟩))
      fun binding among same => ?_
    obtain ⟨other, otherMember, rfl⟩ := List.mem_map.1 (List.mem_reverse.1 among)
    exact (List.idxOf_inj otherMember).1 (qualifierAt_injective same)
  rw [scopeOf, find?_append, found, Option.some_or]

theorem IsPlain.scopeOf {outer : Namespaces} (plain : IsPlain outer) (uris : List (List Char)) :
    IsPlain (scopeOf uris outer) where
  xml := (find?_scopeOf_of_ne (by decide) uris outer).trans plain.xml
  default := (find?_scopeOf_of_ne (by decide) uris outer).trans plain.default

/-- The namespace of the name has a binding, if it needs one. -/
def IsDeclared (uris : List (List Char)) (name : ExpandedName) : Prop :=
  name.uri = [] ∨ name.uri = Namespaces.xmlNamespace ∨ name.uri ∈ uris

theorem isDeclared_of_mem {names : List ExpandedName} {name : ExpandedName}
    (member : name ∈ names) : IsDeclared (declared names) name := by
  by_cases given : name.uri = []
  · exact .inl given
  by_cases reserved : name.uri = Namespaces.xmlNamespace
  · exact .inr (.inl reserved)
  · exact .inr (.inr (mem_declared.2 ⟨⟨name, member, rfl⟩, given, reserved⟩))

theorem find?_label {uris : List (List Char)} {name : ExpandedName} (known : IsDeclared uris name)
    {outer : Namespaces} (plain : IsPlain outer) {qualifier : List Char}
    (given : (label uris name).qualifier? = some qualifier) :
    (scopeOf uris outer).find? qualifier = some name.uri := by
  obtain ⟨-, qualified⟩ | ⟨reserved, qualified⟩ | ⟨⟨proper, free⟩, qualified⟩ :=
    qualifier?_label uris name <;> cases given.symm.trans qualified
  · rw [reserved]
    exact (plain.scopeOf uris).xml
  · exact find?_scopeOf ((known.resolve_left proper).resolve_left free) outer

/-- The name that is written means the name that it is written for. -/
theorem expand_label {uris : List (List Char)} {name : ExpandedName} (known : IsDeclared uris name)
    {outer : Namespaces} (plain : IsPlain outer) :
    (label uris name).expand (scopeOf uris outer) [] = name := by
  unfold Label.expand
  cases given : (label uris name).qualifier? with
  | none =>
    obtain ⟨alone, -⟩ | ⟨-, qualified⟩ | ⟨-, qualified⟩ := qualifier?_label uris name
    · rw [← alone]
      rfl
    · cases given.symm.trans qualified
    · cases given.symm.trans qualified
  | some qualifier =>
    simp only [find?_label known plain given]
    rfl

theorem isBound_label {uris : List (List Char)} {name : ExpandedName} (known : IsDeclared uris name)
    {outer : Namespaces} (plain : IsPlain outer) :
    (label uris name).isBound (scopeOf uris outer) = true := by
  unfold Label.isBound
  cases given : (label uris name).qualifier? with
  | none => rfl
  | some qualifier => rw [Option.all_some, find?_label known plain given, Option.isSome_some]

/-! ### Tags -/

namespace Attribution

/-- An attribute of a value. -/
def ofValue (label : Label) (value : List Char) : Attribution :=
  { gap := [' '], label, before := [], behind := [], mark := '"', signs := value.map .numbered }

/-- A declaration of a namespace. -/
def ofBinding (binding : List Char × List Char) : Attribution :=
  .ofValue ⟨some "xmlns".toList, binding.1⟩ binding.2

variable {label : Label} {value : List Char}

theorem value_ofValue (allowed : ∀ character ∈ value, isAllowed character = true) :
    (ofValue label value).value = value := Sign.value_numbered allowed

theorem value_ofBinding {binding : List Char × List Char}
    (allowed : ∀ character ∈ binding.2, isAllowed character = true) :
    (ofBinding binding).value = binding.2 := value_ofValue allowed

theorem isProper_ofValue (proper : label.isProper = true)
    (allowed : ∀ character ∈ value, isAllowed character = true) :
    (ofValue label value).isProper = true := by
  refine (isProper_iff _).2 ⟨List.cons_ne_nil _ _, rfl, proper, rfl, rfl, rfl, ?_⟩
  intro sign member
  obtain ⟨character, among, rfl⟩ := List.mem_map.1 member
  exact ⟨Sign.isProper_numbered (allowed character among), nofun⟩

theorem isProper_ofBinding {position : Nat} {uri : List Char}
    (allowed : ∀ character ∈ uri, isAllowed character = true) :
    (ofBinding (qualifierAt position, uri)).isProper = true := by
  refine isProper_ofValue ((Label.isProper_iff _).2 ⟨?_, isName_qualifierAt position⟩) allowed
  rintro _ ⟨⟩
  decide

/-- A name that is not that of a declaration is written as none. -/
theorem binds?_ofValue_label {uris : List (List Char)} {name : ExpandedName}
    (undeclaring : name ≠ ⟨[], "xmlns".toList⟩) :
    (ofValue (Written.label uris name) value).binds? = none := by
  unfold binds? ofValue
  obtain ⟨alone, qualified⟩ | ⟨-, qualified⟩ | ⟨-, qualified⟩ := qualifier?_label uris name <;>
    simp only [qualified]
  · refine if_neg fun declaring => undeclaring ?_
    cases name
    cases alone
    cases declaring
    rfl
  · exact if_neg (by decide)
  · exact if_neg (qualifierAt_ne (by decide) _)

end Attribution

namespace StartTag

/-- What a tag binds lies before what is bound outside, the last declaration first. -/
theorem scope_eq (tag : StartTag) (outer : Namespaces) :
    tag.scope outer = (tag.attributions.filterMap fun attribution =>
      attribution.binds?.map (·, attribution.value)).reverse ++ outer := by
  unfold scope
  generalize tag.attributions = attributions
  induction attributions generalizing outer with
  | nil => rfl
  | cons attribution others inductionHypothesis =>
    rw [List.foldl_cons, inductionHypothesis]
    cases binds : attribution.binds? <;> simp [binds]

/-- The namespaces that an element declares for its name and its attributes. -/
def urisOf (name : ExpandedName) (attributes : List (ExpandedName × List Char)) :
    List (List Char) :=
  declared (name :: attributes.map (·.1))

/-- The tag of an element with a name and attributes. -/
def ofNames (name : ExpandedName) (attributes : List (ExpandedName × List Char)) : StartTag :=
  let uris := urisOf name attributes
  { label := Written.label uris name
    attributions := (bindings uris).map .ofBinding ++
      attributes.map fun entry => .ofValue (Written.label uris entry.1) entry.2
    spaces := [] }

variable {name : ExpandedName} {attributes : List (ExpandedName × List Char)}

theorem isDeclared_name : IsDeclared (urisOf name attributes) name :=
  isDeclared_of_mem (List.mem_cons_self ..)

theorem isDeclared_entry {entry : ExpandedName × List Char} (member : entry ∈ attributes) :
    IsDeclared (urisOf name attributes) entry.1 :=
  isDeclared_of_mem (List.mem_cons_of_mem _ (List.mem_map_of_mem member))

/-- What stands in the tag declares a namespace or gives an attribute. -/
theorem declares_or_gives {attribution : Attribution}
    (member : attribution ∈ (ofNames name attributes).attributions) :
    (∃ uri ∈ urisOf name attributes, attribution =
      .ofBinding (qualifierAt ((urisOf name attributes).idxOf uri), uri)) ∨
    ∃ entry ∈ attributes, attribution =
      .ofValue (Written.label (urisOf name attributes) entry.1) entry.2 := by
  rcases List.mem_append.1 member with declares | given
  · obtain ⟨_, among, rfl⟩ := List.mem_map.1 declares
    obtain ⟨uri, known, rfl⟩ := List.mem_map.1 among
    exact .inl ⟨uri, known, rfl⟩
  · obtain ⟨entry, among, rfl⟩ := List.mem_map.1 given
    exact .inr ⟨entry, among, rfl⟩

section Proper

variable (proper : Tree.HasProperTag name attributes)
include proper

/-- Every namespace that is declared is that of a name that can be written. -/
theorem exists_of_mem_urisOf {uri : List Char} (member : uri ∈ urisOf name attributes) :
    ∃ known : ExpandedName, known.IsProper ∧ known.uri = uri := by
  obtain ⟨⟨known, among, same⟩, -⟩ := mem_declared.1 member
  refine ⟨known, ?_, same⟩
  rcases List.mem_cons.1 among with rfl | among
  · exact proper.name
  · obtain ⟨entry, given, rfl⟩ := List.mem_map.1 among
    exact proper.names entry given

theorem isAllowed_of_mem_urisOf {uri : List Char} (member : uri ∈ urisOf name attributes) :
    ∀ character ∈ uri, isAllowed character = true := by
  obtain ⟨known, properName, rfl⟩ := exists_of_mem_urisOf proper member
  exact properName.allowed

theorem mayBind_of_mem_urisOf {uri : List Char} (member : uri ∈ urisOf name attributes)
    (position : Nat) : mayBind (qualifierAt position) uri = true := by
  obtain ⟨-, given, free⟩ := mem_declared.1 member
  obtain ⟨known, properName, rfl⟩ := exists_of_mem_urisOf proper member
  have notReserved : qualifierAt position ≠ ['x', 'm', 'l'] := qualifierAt_ne (by decide) position
  have notDeclaring : qualifierAt position ≠ ['x', 'm', 'l', 'n', 's'] :=
    qualifierAt_ne (by decide) position
  simp [mayBind, given, free, notReserved, notDeclaring, properName.notDeclarations,
    properName.unbraced]

theorem isProper_of_mem_ofNames :
    ∀ attribution ∈ (ofNames name attributes).attributions, attribution.isProper = true := by
  intro attribution member
  obtain ⟨uri, known, rfl⟩ | ⟨entry, among, rfl⟩ := declares_or_gives member
  · exact Attribution.isProper_ofBinding (isAllowed_of_mem_urisOf proper known)
  · exact Attribution.isProper_ofValue (isProper_label (proper.names entry among) _)
      (proper.values entry among)

theorem scope_ofNames (outer : Namespaces) :
    (ofNames name attributes).scope outer = scopeOf (urisOf name attributes) outer := by
  have others : (attributes.map fun entry : ExpandedName × List Char =>
      Attribution.ofValue (Written.label (urisOf name attributes) entry.1) entry.2).filterMap
        (fun attribution => attribution.binds?.map (·, attribution.value)) = [] := by
    refine List.filterMap_eq_nil_iff.2 fun attribution member => ?_
    obtain ⟨entry, among, rfl⟩ := List.mem_map.1 member
    rw [Attribution.binds?_ofValue_label (proper.undeclaring entry among)]
    rfl
  rw [scope_eq, scopeOf, ofNames, List.filterMap_append, others, List.append_nil, bindings,
    List.map_map, List.filterMap_map]
  congr 2
  rw [← List.filterMap_eq_map]
  refine List.filterMap_congr fun uri member => ?_
  exact congrArg (fun value => some (_, value))
    (Attribution.value_ofBinding (isAllowed_of_mem_urisOf proper member))

theorem proper_ofNames :
    (ofNames name attributes).proper = attributes.map fun entry =>
      .ofValue (Written.label (urisOf name attributes) entry.1) entry.2 := by
  rw [StartTag.proper, ofNames, List.filter_append, List.filter_eq_nil_iff.2, List.nil_append,
    List.filter_eq_self.2]
  · intro attribution member
    obtain ⟨entry, among, rfl⟩ := List.mem_map.1 member
    rw [Attribution.binds?_ofValue_label (proper.undeclaring entry among)]
    rfl
  · intro attribution member
    obtain ⟨binding, -, rfl⟩ := List.mem_map.1 member
    exact Bool.false_ne_true

variable {outer : Namespaces} (plain : IsPlain outer)
include plain

theorem name_ofNames : (ofNames name attributes).name outer = name := by
  rw [StartTag.name, scope_ofNames proper, (plain.scopeOf _).default]
  exact expand_label isDeclared_name plain

theorem attributes_ofNames : (ofNames name attributes).attributes outer = attributes := by
  rw [StartTag.attributes, proper_ofNames proper, scope_ofNames proper, List.map_map]
  refine (List.map_congr_left fun entry member => ?_).trans (List.map_id _)
  exact Prod.ext (expand_label (isDeclared_entry member) plain)
    (Attribution.value_ofValue (proper.values entry member))

/-- No name is written twice: those of declarations differ by what they bind, and the others mean
different names. -/
theorem nodup_labels_ofNames :
    ((ofNames name attributes).attributions.map Attribution.label).Nodup := by
  rw [ofNames, List.map_append, List.map_map, bindings, List.map_map, List.map_map,
    List.nodup_append]
  refine ⟨?_, ?_, ?_⟩
  · refine (List.nodup_dedup _).map_on fun first among second _ same => ?_
    exact (List.idxOf_inj among).1 (qualifierAt_injective (Label.mk.inj same).2)
  · refine List.Nodup.of_map (fun label => label.expand (scopeOf (urisOf name attributes) outer) [])
      ?_
    rw [List.map_map]
    refine Eq.mp (congrArg List.Nodup (List.map_congr_left fun entry member => ?_)) proper.distinct
    exact (expand_label (isDeclared_entry member) plain).symm
  · rintro _ declares _ given rfl
    obtain ⟨entry, among, rfl⟩ := List.mem_map.1 given
    obtain ⟨uri, -, same⟩ := List.mem_map.1 declares
    have none : (Attribution.ofValue (Written.label (urisOf name attributes) entry.1) []).binds? =
        none := Attribution.binds?_ofValue_label (proper.undeclaring entry among)
    rw [← show _ = Written.label (urisOf name attributes) entry.1 from same] at none
    exact nomatch none

theorem wellFormed_ofNames : (ofNames name attributes).WellFormed outer where
  label := isProper_label proper.name _
  attributions := isProper_of_mem_ofNames proper
  spaces := rfl
  bindings attribution member bound binds := by
    obtain ⟨uri, known, rfl⟩ | ⟨entry, among, rfl⟩ := declares_or_gives member
    · cases binds
      rw [Attribution.value_ofBinding (isAllowed_of_mem_urisOf proper known)]
      exact mayBind_of_mem_urisOf proper known _
    · rw [Attribution.binds?_ofValue_label (proper.undeclaring entry among)] at binds
      exact nomatch binds
  labelBound := by
    rw [scope_ofNames proper]
    exact isBound_label isDeclared_name plain
  properBound attribution member := by
    rw [proper_ofNames proper] at member
    obtain ⟨entry, among, rfl⟩ := List.mem_map.1 member
    rw [scope_ofNames proper]
    exact isBound_label (isDeclared_entry among) plain
  labelsDistinct := by
    rw [← Function.comp_def, ← List.map_map]
    refine (nodup_labels_ofNames proper plain).map_on fun first known second knownToo same => ?_
    obtain ⟨attribution, member, rfl⟩ := List.mem_map.1 known
    obtain ⟨other, memberToo, rfl⟩ := List.mem_map.1 knownToo
    exact Label.text_injective
      (Attribution.isProper_label (isProper_of_mem_ofNames proper _ member))
      (Attribution.isProper_label (isProper_of_mem_ofNames proper _ memberToo)) same
  namesDistinct := by
    rw [attributes_ofNames proper plain]
    exact proper.distinct

end Proper

end StartTag

/-! ### Elements -/

/-- Elements in a row, each with a tag at its start and its end and nothing beside its elements. -/
def Content.ofTrees : List Tree → Content
  | [] => .nothing
  | .node name attributes children :: others =>
    .nested (.ofNames name attributes) (ofTrees children) [] (ofTrees others)

/-- The document that an element is written as. -/
def Document.ofTree : Tree → Document
  | .node name attributes children =>
    { declaration? := none, before := [], root := .ofNames name attributes
      content? := some (.ofTrees children, []), behind := [] }

section Elements

variable {trees : List Tree} {outer : Namespaces} (plain : IsPlain outer)
  (proper : Tree.AreProper trees)
include plain proper

theorem trees_ofTrees : (Content.ofTrees trees).trees outer = trees := by
  fun_induction Content.ofTrees trees generalizing outer with
  | case1 => rfl
  | case2 name attributes children others inductionBelow inductionBehind =>
    obtain ⟨⟨tag, below⟩, behind⟩ := proper
    rw [Content.trees, StartTag.name_ofNames tag plain, StartTag.attributes_ofNames tag plain,
      StartTag.scope_ofNames tag, inductionBelow (plain.scopeOf _) below,
      inductionBehind plain behind]

theorem wellFormed_ofTrees : (Content.ofTrees trees).WellFormed outer := by
  fun_induction Content.ofTrees trees generalizing outer with
  | case1 => exact trivial
  | case2 name attributes children others inductionBelow inductionBehind =>
    obtain ⟨⟨tag, below⟩, behind⟩ := proper
    refine ⟨StartTag.wellFormed_ofNames tag plain, ?_, rfl, inductionBehind plain behind⟩
    rw [StartTag.scope_ofNames tag]
    exact inductionBelow (plain.scopeOf _) below

end Elements

/-! ### Characters -/

theorem all_isAllowed_name {name : List Char} (proper : isName name = true) :
    name.all isAllowed = true := by
  obtain ⟨first, rest, rfl, starts, goesOn⟩ := exists_of_isName proper
  rw [List.all_cons, Bool.and_eq_true, List.all_eq_true]
  exact ⟨isAllowed_of_isNameCharacter (isNameCharacter_of_isNameStart starts),
    fun character member => isAllowed_of_isNameCharacter (goesOn character member)⟩

theorem all_isAllowed_label {label : Label} (proper : label.isProper = true) :
    label.text.all isAllowed = true := by
  obtain ⟨qualifier, localName⟩ := (Label.isProper_iff label).1 proper
  unfold Label.text
  split
  · exact all_isAllowed_name localName
  · rename_i known
    have colon : isAllowed ':' = true := by decide
    simp [colon, all_isAllowed_name (qualifier _ known), all_isAllowed_name localName]

theorem all_isAllowed_numbered (character : Char) :
    (Sign.numbered character).text.all isAllowed = true := by
  have digits : (Nat.toDigits 10 character.toNat).all isAllowed = true := by
    refine List.all_eq_true.2 fun digit member => ?_
    have decimal := Nat.isDigit_of_mem_toDigits (by decide) (by decide) member
    simp only [Char.isDigit, Bool.and_eq_true, decide_eq_true_eq] at decimal
    have low : 48 ≤ digit.toNat := decimal.1
    have high : digit.toNat ≤ 57 := decimal.2
    exact isAllowed_of_between (by omega) (by omega)
  rw [Sign.numbered, Sign.text, List.all_append, List.all_append, digits]
  decide

theorem all_isAllowed_ofValue {label : Label} (proper : label.isProper = true)
    (value : List Char) : (Attribution.ofValue label value).text.all isAllowed = true := by
  have signs : ((value.map Sign.numbered).flatMap Sign.text).all isAllowed = true := by
    simp [List.all_flatMap, all_isAllowed_numbered]
  have marks : isAllowed ' ' = true ∧ isAllowed '=' = true ∧ isAllowed '"' = true := by decide
  simp [Attribution.text, Attribution.ofValue, all_isAllowed_label proper, signs, marks]

theorem all_isAllowed_ofNames {name : ExpandedName} {attributes : List (ExpandedName × List Char)}
    (proper : Tree.HasProperTag name attributes) :
    (StartTag.ofNames name attributes).text.all isAllowed = true := by
  have attributions : ((StartTag.ofNames name attributes).attributions.flatMap
      Attribution.text).all isAllowed = true := by
    refine List.all_flatMap.trans (List.all_eq_true.2 fun attribution member => ?_)
    have properLabel := Attribution.isProper_label
      (StartTag.isProper_of_mem_ofNames proper attribution member)
    obtain ⟨uri, -, rfl⟩ | ⟨entry, -, rfl⟩ := StartTag.declares_or_gives member
    · exact all_isAllowed_ofValue properLabel uri
    · exact all_isAllowed_ofValue properLabel entry.2
  have label := all_isAllowed_label (isProper_label proper.name (StartTag.urisOf name attributes))
  have opening : isAllowed '<' = true := by decide
  rw [StartTag.text, List.all_append, List.all_append, List.all_cons, attributions, opening]
  simpa [StartTag.ofNames] using label

theorem all_isAllowed_ofTrees {trees : List Tree} (proper : Tree.AreProper trees) :
    (Content.ofTrees trees).text.all isAllowed = true := by
  fun_induction Content.ofTrees trees with
  | case1 => rfl
  | case2 name attributes children others inductionBelow inductionBehind =>
    obtain ⟨⟨tag, below⟩, behind⟩ := proper
    have marks : isAllowed '<' = true ∧ isAllowed '/' = true ∧ isAllowed '>' = true := by decide
    have label : (StartTag.ofNames name attributes).label.text.all isAllowed = true :=
      all_isAllowed_label (isProper_label tag.name _)
    simp [Content.text, all_isAllowed_ofNames tag, label, inductionBelow below,
      inductionBehind behind, marks]

/-! ### Documents -/

namespace Document

theorem element_ofTree (tree : Tree) : (ofTree tree).element = .ofTrees [tree] := by
  obtain ⟨name, attributes, children⟩ := tree
  rw [Content.ofTrees, Content.ofTrees]
  rfl

variable {tree : Tree} (proper : tree.IsProper)
include proper

theorem tree_ofTree : (ofTree tree).tree = tree := by
  have alone : Tree.AreProper [tree] := ⟨proper, trivial⟩
  have known := trees_element (ofTree tree)
  rw [element_ofTree, trees_ofTrees isPlain_initial alone] at known
  exact (List.cons.inj known).1.symm

theorem wellFormed_ofTree : (ofTree tree).WellFormed := by
  have alone : Tree.AreProper [tree] := ⟨proper, trivial⟩
  have allowed := all_isAllowed_ofTrees alone
  have element := wellFormed_ofTrees isPlain_initial alone
  rw [← element_ofTree] at allowed element
  obtain ⟨name, attributes, children⟩ := tree
  refine ⟨?_, nofun, nofun, element, nofun⟩
  simpa [text, body, ofTree] using allowed

end Document

/-- Every tree that can be written is what a document stands for. -/
theorem exists_document {tree : Tree} (proper : tree.IsProper) :
    ∃ document : Document, document.WellFormed ∧ document.tree = tree :=
  ⟨.ofTree tree, Document.wellFormed_ofTree proper, Document.tree_ofTree proper⟩

end Written

end Xml

namespace Source

/-- So every such tree is delivered by some body, whatever chunks this comes in. -/
theorem exists_body_delivers {tree : Xml.Tree} (proper : tree.IsProper) :
    ∃ body : Bytes, ∀ {σ : Type} (source : Source σ) (session : Http.Session σ)
      (answer : Http.Answer), answer.status.isSuccess = true → answer.interruption = none →
        answer.body = body → source.Delivers session answer tree := by
  obtain ⟨document, wellFormed, rfl⟩ := Xml.Written.exists_document proper
  exact ⟨document.bytes false, fun source session answer success whole body =>
    delivers_written success whole wellFormed body⟩

end Source

end ApiDoc
