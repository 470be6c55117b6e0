/-
This file proves that at each place of a document only markup is found that may stand there, and
that no name in a start tag holds the brace that closes a namespace.
-/
import ApiDoc.Proofs.SteadyScanning

namespace ApiDoc.Xml

/-! ### What scanners find -/

namespace Scanner

variable {α β : Type}

/-- Whatever the scanner finds has a property. -/
def Yields (scanner : Scanner α) (property : α → Prop) : Prop :=
  ∀ text item rest, scanner text = .found item rest → property item

theorem Yields.pure {property : α → Prop} {item : α} (holds : property item) :
    Yields (Pure.pure item) property := by
  intro text found rest scanned
  rw [pure_apply] at scanned
  cases scanned
  exact holds

theorem Yields.reject {property : α → Prop} : Yields reject property := nofun

/-- What comes second may depend on a property of what comes first. -/
theorem Yields.bind {first : Scanner α} {next : α → Scanner β} {given : α → Prop}
    {property : β → Prop} (yields : first.Yields given)
    (follows : ∀ item, given item → (next item).Yields property) :
    Yields (first >>= next) property := by
  intro text found rest scanned
  obtain ⟨item, middle, taken, followed⟩ := found_of_bind scanned
  exact follows item (yields _ _ _ taken) _ _ _ followed

/-- What comes second has the property whatever comes first. -/
theorem Yields.after {first : Scanner α} {next : α → Scanner β} {property : β → Prop}
    (follows : ∀ item, (next item).Yields property) : Yields (first >>= next) property :=
  Yields.bind (fun _ _ _ _ => trivial) fun item (_ : True) => follows item

theorem Yields.ite {condition : Prop} [Decidable condition] {first second : Scanner α}
    {property : α → Prop} (yieldsFirst : first.Yields property)
    (yieldsSecond : second.Yields property) :
    Yields (if condition then first else second) property := by
  split
  · exact yieldsFirst
  · exact yieldsSecond

/-! ### Names -/

theorem yields_takeWhile (accepts : Char → Bool) :
    (takeWhile accepts).Yields fun characters =>
      ∀ character ∈ characters, accepts character = true := by
  intro text
  unfold takeWhile
  induction text with
  | nil =>
    intro characters rest scanned
    cases scanned
  | cons first others inductionHypothesis =>
    intro characters rest scanned
    rw [run] at scanned
    split at scanned
    · split at scanned
      · cases scanned
        exact List.forall_mem_cons.2 ⟨‹_›, inductionHypothesis _ _ ‹_›⟩
      · cases scanned
      · cases scanned
    · cases scanned
      exact List.forall_mem_nil _

/-- The brace is no character of names. -/
theorem yields_name : name.Yields ('\x7d' ∉ ·) := by
  refine Yields.after fun first => ?_
  split
  · rename_i starts
    refine (yields_takeWhile _).bind fun characters accepted => .pure fun member => ?_
    rcases List.mem_cons.1 member with rfl | further
    · exact absurd starts (by decide)
    · exact absurd (accepted _ further) (by decide)
  · exact .reject

theorem yields_qualifiedName : qualifiedName.Yields ('\x7d' ∉ ·) := by
  refine yields_name.bind fun first plain => Yields.after fun character => .ite ?_ (.pure plain)
  refine Yields.after fun _ => yields_name.bind fun second plainToo => .pure fun member => ?_
  rcases List.mem_append.1 member with before | behind
  · exact plain before
  · exact (List.mem_cons.1 behind).elim (by decide) plainToo

end Scanner

/-! ### Markup at its place -/

/-- Where an element may start. -/
def Place.startsElement : Place → Bool
  | .prolog _ | .content => true
  | .subset | .afterSubset | .characterData | .epilog => false

namespace Markup

open Scanner (Yields)

/-- The markup may stand at a place, and if it is a start tag, no brace is in its name. -/
def Suits (place : Place) : Markup → Prop
  | .passed => True
  | .header _ => ∃ hasDoctype, place = .prolog hasDoctype
  | .declaration _ | .parameterReference | .subsetEnd => place = .subset
  | .headerEnd => place = .afterSubset
  | .startTag tag => place.startsElement = true ∧ '\x7d' ∉ tag.name
  | .endTag _ | .reference _ | .dataStart => place = .content
  | .dataEnd => place = .characterData

variable {place : Place}

theorem suits_passComment : passComment.Yields (Suits place) := by
  intro text
  fun_induction passComment text with
  | case1 => rintro item rest ⟨⟩; exact trivial
  | case2 | case3 | case4 | case5 => exact nofun
  | case6 first rest _ _ _ _ inductionHypothesis => exact inductionHypothesis

theorem suits_passInstruction : passInstruction.Yields (Suits place) := by
  intro text
  fun_induction passInstruction text with
  | case1 => rintro item rest ⟨⟩; exact trivial
  | case2 | case3 => exact nofun
  | case4 first rest _ _ inductionHypothesis => exact inductionHypothesis

theorem suits_comment : comment.Yields (Suits place) := Yields.after fun _ => suits_passComment

theorem suits_instructionRest : instructionRest.Yields (Suits place) :=
  Yields.after fun _ => .ite suits_passInstruction (Yields.after fun _ => .pure trivial)

theorem suits_instruction : instruction.Yields (Suits place) :=
  Yields.after fun _ => Yields.after fun _ => .ite (Yields.after fun _ => .reject)
    (.ite .reject suits_instructionRest)

theorem suits_startTagRest (starts : place.startsElement = true) :
    startTagRest.Yields (Suits place) :=
  Scanner.yields_qualifiedName.bind fun _ plain => Yields.after fun _ => .pure ⟨starts, plain⟩

theorem suits_endTagRest : endTagRest.Yields (Suits .content) :=
  Yields.after fun _ => .ite (Yields.after fun _ => Yields.after fun _ => Yields.after fun _ =>
    .pure rfl) .reject

theorem suits_text : text.Yields (Suits place) := by
  intro characters
  fun_cases text characters with
  | case1 | case2 | case3 | case4 => exact nofun
  | case5 => rintro item rest ⟨⟩; exact trivial

theorem suits_characterData : characterData.Yields (Suits .characterData) := by
  intro characters
  fun_cases characterData characters with
  | case1 => rintro item rest ⟨⟩; exact rfl
  | case2 | case3 | case4 => exact nofun
  | case5 => rintro item rest ⟨⟩; exact trivial

theorem suits_declarationInContent : declarationInContent.Yields (Suits .content) :=
  Yields.after fun _ => .ite suits_comment (Yields.after fun _ => Yields.after fun _ => .pure rfl)

theorem suits_afterOpening (starts : place.startsElement = true) {declaration : Scanner Markup}
    (suits : declaration.Yields (Suits place)) :
    (afterOpening declaration).Yields (Suits place) := by
  refine Yields.after fun character => ?_
  split
  · exact Yields.after fun _ => suits
  · exact Yields.after fun _ => suits_instruction
  · exact suits_startTagRest starts

theorem suits_content : content.Yields (Suits .content) := by
  refine Yields.after fun character => ?_
  split
  · exact Yields.after fun _ => Yields.after fun _ => .ite (Yields.after fun _ => suits_endTagRest)
      (suits_afterOpening rfl suits_declarationInContent)
  · exact Yields.after fun _ => Yields.after fun _ => .pure rfl
  · exact suits_text

theorem suits_commentOr {declaration : Scanner Markup} (suits : declaration.Yields (Suits place)) :
    (commentOr declaration).Yields (Suits place) :=
  Yields.after fun _ => .ite suits_comment suits

theorem suits_aroundRoot {markup stray : Scanner Markup} (suits : markup.Yields (Suits place))
    (suitsStray : stray.Yields (Suits place)) : (aroundRoot markup stray).Yields (Suits place) :=
  Yields.after fun _ => .ite (Yields.after fun _ => .pure trivial)
    (.ite (Yields.after fun _ => suits) suitsStray)

theorem suits_strayToken : strayToken.Yields (Suits place) := Yields.after fun _ => .reject

theorem suits_strayUnlessWord : strayUnlessWord.Yields (Suits place) :=
  Yields.after fun _ => .ite .reject suits_strayToken

theorem suits_prolog (hasDoctype : Bool) :
    (prolog hasDoctype).Yields (Suits (.prolog hasDoctype)) :=
  suits_aroundRoot (suits_afterOpening rfl (suits_commentOr
    (.ite .reject (Yields.after fun _ => .pure ⟨hasDoctype, rfl⟩)))) suits_strayToken

theorem suits_epilog : epilog.Yields (Suits .epilog) := by
  refine suits_aroundRoot (Yields.after fun character => ?_) suits_strayUnlessWord
  split
  · exact suits_comment
  · exact suits_instruction
  · exact .reject

theorem suits_subset : subset.Yields (Suits .subset) := by
  refine Yields.after fun character => .ite (.pure trivial) ?_
  split
  · exact Yields.after fun _ => Yields.after fun _ => .pure rfl
  · exact .pure rfl
  · refine Yields.after fun second => ?_
    split
    · exact suits_commentOr (Yields.after fun _ => .pure rfl)
    · exact suits_instruction
    · exact .reject
  · exact .reject

theorem suits_afterSubset : afterSubset.Yields (Suits .afterSubset) :=
  Yields.after fun _ => .ite (.pure trivial) (.ite (.pure rfl) .reject)

/-- Whatever the place, the markup that is found there may stand there. -/
theorem suits_scan : ∀ place, (scan place).Yields (Suits place)
  | .prolog hasDoctype => suits_prolog hasDoctype
  | .subset => suits_subset
  | .afterSubset => suits_afterSubset
  | .content => suits_content
  | .characterData => suits_characterData
  | .epilog => suits_epilog

end Markup

end ApiDoc.Xml
