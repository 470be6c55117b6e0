/-
This file proves that a value can be read from its own text. In every layout the text spells the
tokens of the value, and the tokens lead the reader to the value again, with the halves of surrogate
pairs joined where they are written like the character that they make up.
-/
import ApiDoc.Json.Reader
import ApiDoc.Proofs.JsonStrings

namespace ApiDoc.Json

open Token (Spells SpellsBefore Delimits rereadString digitsOf)

/-! ### What is read of a value -/

mutual

/-- What a value is read as that is written in full or with nothing but ASCII. -/
def reread (asciiOnly : Bool) : Json → Json
  | .null => .null
  | .bool value => .bool value
  | .integer value => .integer value
  | .double value => .double value
  | .string value => .string (rereadString asciiOnly value)
  | .array items => .array (rereadItems asciiOnly items)
  | .object members => .object (rereadMembers asciiOnly members)

/-- What items are read as. -/
def rereadItems (asciiOnly : Bool) : List Json → List Json
  | [] => []
  | item :: rest => reread asciiOnly item :: rereadItems asciiOnly rest

/-- What members are read as. -/
def rereadMembers (asciiOnly : Bool) : List (Text × Json) → List (Text × Json)
  | [] => []
  | (key, value) :: rest =>
    (rereadString asciiOnly key, reread asciiOnly value) :: rereadMembers asciiOnly rest

end

mutual

/-- A value can be read again if no array or object in it lies deeper than a number of levels, no
integer has more digits than are read, no double is in it, and the keys of every object are distinct
when they are read. -/
def IsRereadable (asciiOnly : Bool) : Nat → Json → Prop
  | _, .null | _, .bool _ | _, .string _ => True
  | _, .integer value => Numeral.IsShort value
  | _, .double _ => False
  | 0, .array _ | 0, .object _ => False
  | depth + 1, .array items => AreRereadable asciiOnly depth items
  | depth + 1, .object members =>
    (Dict.keys (rereadMembers asciiOnly members)).Nodup ∧ HaveRereadable asciiOnly depth members

/-- All items can be read again. -/
def AreRereadable (asciiOnly : Bool) : Nat → List Json → Prop
  | _, [] => True
  | depth, item :: rest => IsRereadable asciiOnly depth item ∧ AreRereadable asciiOnly depth rest

/-- All members can be read again. -/
def HaveRereadable (asciiOnly : Bool) : Nat → List (Text × Json) → Prop
  | _, [] => True
  | depth, (_, value) :: rest =>
    IsRereadable asciiOnly depth value ∧ HaveRereadable asciiOnly depth rest

end

theorem rereadItems_eq_map (asciiOnly : Bool) (items : List Json) :
    rereadItems asciiOnly items = items.map (reread asciiOnly) := by
  induction items with
  | nil => rfl
  | cons item rest inductionHypothesis => rw [rereadItems, inductionHypothesis, List.map_cons]

theorem rereadMembers_eq_map (asciiOnly : Bool) (members : List (Text × Json)) :
    rereadMembers asciiOnly members =
      members.map fun (key, value) => (rereadString asciiOnly key, reread asciiOnly value) := by
  induction members with
  | nil => rfl
  | cons entry rest inductionHypothesis => rw [rereadMembers, inductionHypothesis, List.map_cons]

theorem areRereadable_iff (asciiOnly : Bool) (depth : Nat) (items : List Json) :
    AreRereadable asciiOnly depth items ↔ ∀ item ∈ items, IsRereadable asciiOnly depth item := by
  induction items with
  | nil => exact iff_of_true trivial fun _ member => nomatch member
  | cons item rest inductionHypothesis =>
    rw [AreRereadable, inductionHypothesis, List.forall_mem_cons]

theorem haveRereadable_iff (asciiOnly : Bool) (depth : Nat) (members : List (Text × Json)) :
    HaveRereadable asciiOnly depth members ↔
      ∀ entry ∈ members, IsRereadable asciiOnly depth entry.2 := by
  induction members with
  | nil => exact iff_of_true trivial fun _ member => nomatch member
  | cons entry rest inductionHypothesis =>
    rw [HaveRereadable, inductionHypothesis, List.forall_mem_cons]

/-! ### The tokens of a value -/

mutual

/-- The tokens that a value is written as. -/
def tokens (asciiOnly : Bool) : Json → List Token
  | .null => [.word .null]
  | .bool value => [.word (.bool value)]
  | .integer value => [.integer (value < 0) (digitsOf value.natAbs)]
  | .double value => [.double value]
  | .string value => [.string (rereadString asciiOnly value)]
  | .array items => .openArray :: (itemTokens asciiOnly false items ++ [.closeArray])
  | .object members => .openObject :: (memberTokens asciiOnly false members ++ [.closeObject])

/-- The tokens of items, each after a comma if others came before it. -/
def itemTokens (asciiOnly : Bool) : Bool → List Json → List Token
  | _, [] => []
  | begun, item :: rest =>
    (if begun then [.comma] else []) ++ (tokens asciiOnly item ++ itemTokens asciiOnly true rest)

/-- The tokens of members, each after a comma if others came before it. -/
def memberTokens (asciiOnly : Bool) : Bool → List (Text × Json) → List Token
  | _, [] => []
  | begun, (key, value) :: rest =>
    (if begun then [.comma] else []) ++ .string (rereadString asciiOnly key) :: .colon ::
      (tokens asciiOnly value ++ memberTokens asciiOnly true rest)

end

/-! ### The text spells the tokens -/

/-- A layout is legible if what it separates members with is read as commas and colons. -/
structure Layout.IsLegible (layout : Layout) : Prop where
  comma : Spells layout.comma [.comma]
  commaDelimits : ∀ rest, Delimits (layout.comma ++ rest)
  colon : Spells layout.colon [.colon]

namespace Layout

theorem spells_comma : Spells "," [.comma] := Token.spells_punctuation rfl

theorem spells_colon : Spells ":" [.colon] := Token.spells_punctuation rfl

theorem spells_blank : Spells " " [] := Token.spells_space rfl

theorem isLegible_spacedAscii : spacedAscii.IsLegible where
  comma := spells_comma.append spells_blank
  commaDelimits _ := Token.delimits_cons rfl _
  colon := spells_colon.append spells_blank

/-- The break before a member is not read. -/
theorem spells_lineBreak (layout : Layout) (level : Nat) : Spells (layout.lineBreak level) [] := by
  unfold lineBreak
  split
  · exact Token.spells_nil
  · refine Token.spells_spaces fun point member => ?_
    rcases List.mem_cons.mp member with rfl | later
    · rfl
    · rw [(List.mem_replicate.mp later).2]
      rfl

theorem delimits_lineBreak (layout : Layout) (level : Nat) {rest : Text}
    (delimits : Delimits rest) : Delimits (layout.lineBreak level ++ rest) := by
  unfold lineBreak
  split
  · exact delimits
  · exact Token.delimits_cons rfl _

end Layout

theorem join_cons (separator first : Text) (rest : List Text) :
    Text.join separator (first :: rest) = first ++ rest.flatMap (separator ++ ·) := by
  induction rest generalizing first with
  | nil => exact (List.append_nil first).symm
  | cons second others inductionHypothesis =>
    rw [Text.join, inductionHypothesis, List.flatMap_cons, List.append_assoc, List.append_assoc]
    · exact nofun

section Spelling

variable {layout : Layout} (legible : layout.IsLegible)

include legible

/-- Members after the first begin with a comma. -/
theorem delimits_separated (separator : Text) (pieces : List Text) {rest : Text}
    (delimits : Delimits rest) :
    Delimits (pieces.flatMap (layout.comma ++ separator ++ ·) ++ rest) := by
  cases pieces with
  | nil => exact delimits
  | cons first others =>
    rw [List.flatMap_cons, List.append_assoc, List.append_assoc, List.append_assoc]
    exact legible.commaDelimits _

/-- One more piece after a comma. -/
theorem spells_separated {level : Nat} {piece : Text} {pieces : List Text}
    {pieceTokens others : List Token} (spells : SpellsBefore piece pieceTokens)
    (spellsOthers : SpellsBefore
      (pieces.flatMap (layout.comma ++ layout.lineBreak level ++ ·)) others) :
    SpellsBefore ((piece :: pieces).flatMap (layout.comma ++ layout.lineBreak level ++ ·))
      ([.comma] ++ (pieceTokens ++ others)) := by
  rw [List.flatMap_cons, List.append_assoc]
  refine (legible.comma.append (layout.spells_lineBreak level)).append_before ?_
  exact spells.append_before spellsOthers fun _ delimits =>
    delimits_separated legible _ pieces delimits

/-- Pieces between brackets. -/
theorem spells_enclose {level : Nat} {opening closing : Text} {opened closed : Token}
    (spellsOpening : Spells opening [opened]) (spellsClosing : Spells closing [closed])
    (delimits : ∀ rest, Delimits (closing ++ rest)) {first : Text} {pieces : List Text}
    {firstTokens others : List Token} (spells : SpellsBefore first firstTokens)
    (spellsOthers : SpellsBefore
      (pieces.flatMap (layout.comma ++ layout.lineBreak (level + 1) ++ ·)) others) :
    Spells (enclose layout level opening closing (first :: pieces))
      (opened :: (firstTokens ++ others ++ [closed])) := by
  have inside : SpellsBefore (Text.join (layout.comma ++ layout.lineBreak (level + 1))
      (first :: pieces)) (firstTokens ++ others) := by
    rw [join_cons]
    exact spells.append_before spellsOthers fun _ delimits =>
      delimits_separated legible _ pieces delimits
  have ended : Spells (layout.lineBreak level ++ closing) [closed] :=
    (layout.spells_lineBreak level).append spellsClosing
  have whole := (spellsOpening.append (layout.spells_lineBreak (level + 1))).append
    (inside.append ended fun rest => by
      rw [List.append_assoc]
      exact layout.delimits_lineBreak level (delimits rest))
  intro rest
  refine Eq.trans ?_ (whole rest)
  unfold enclose Text.ofPieces
  simp only [List.flatten_cons, List.flatten_nil, List.append_nil, List.append_assoc]

theorem spells_member (key : Text) {written : Text} {valueTokens : List Token}
    (spells : SpellsBefore written valueTokens) :
    SpellsBefore (Text.ofPieces [printString layout.asciiOnly key, layout.colon, written])
      (.string (rereadString layout.asciiOnly key) :: .colon :: valueTokens) := by
  have named := (Token.spells_printString layout.asciiOnly key).append legible.colon
  intro rest delimits
  refine Eq.trans ?_ (named.append_before spells rest delimits)
  unfold Text.ofPieces
  simp only [List.flatten_cons, List.flatten_nil, List.append_nil, List.append_assoc]

mutual

/-- The text of a value spells its tokens. -/
theorem spells_print : ∀ (value : Json) (depth : Nat),
    IsRereadable layout.asciiOnly depth value → ∀ level,
      SpellsBefore (print layout level value) (tokens layout.asciiOnly value)
  | .null, _, _, _ => Token.spellsBefore_word "null" (by decide)
  | .bool true, _, _, _ => Token.spellsBefore_word "true" (by decide)
  | .bool false, _, _, _ => Token.spellsBefore_word "false" (by decide)
  | .integer value, _, _, _ => Token.spellsBefore_ofInt value
  | .double _, _, rereadable, _ => rereadable.elim
  | .string value, _, _, _ => (Token.spells_printString layout.asciiOnly value).before
  | .array [], _ + 1, _, _ =>
    ((Token.spells_punctuation rfl).append (Token.spells_punctuation rfl)).before
  | .array (item :: rest), depth + 1, rereadable, level =>
    (spells_enclose legible (Token.spells_punctuation rfl) (Token.spells_punctuation rfl)
      (fun _ => Token.delimits_cons rfl _) (spells_print item depth rereadable.1 (level + 1))
      (spells_items rest depth rereadable.2 (level + 1))).before
  | .object [], _ + 1, _, _ =>
    ((Token.spells_punctuation rfl).append (Token.spells_punctuation rfl)).before
  | .object ((key, value) :: rest), depth + 1, rereadable, level =>
    (spells_enclose legible (Token.spells_punctuation rfl) (Token.spells_punctuation rfl)
      (fun _ => Token.delimits_cons rfl _)
      (spells_member legible key (spells_print value depth rereadable.2.1 (level + 1)))
      (spells_members rest depth rereadable.2.2 (level + 1))).before

/-- The texts of items after the first spell their tokens. -/
theorem spells_items : ∀ (items : List Json) (depth : Nat),
    AreRereadable layout.asciiOnly depth items → ∀ level,
      SpellsBefore ((printItems layout level items).flatMap
        (layout.comma ++ layout.lineBreak level ++ ·)) (itemTokens layout.asciiOnly true items)
  | [], _, _, _ => Token.spells_nil.before
  | item :: rest, depth, rereadable, level =>
    spells_separated legible (spells_print item depth rereadable.1 level)
      (spells_items rest depth rereadable.2 level)

/-- The texts of members after the first spell their tokens. -/
theorem spells_members : ∀ (members : List (Text × Json)) (depth : Nat),
    HaveRereadable layout.asciiOnly depth members → ∀ level,
      SpellsBefore ((printMembers layout level members).flatMap
        (layout.comma ++ layout.lineBreak level ++ ·))
        (memberTokens layout.asciiOnly true members)
  | [], _, _, _ => Token.spells_nil.before
  | (key, value) :: rest, depth, rereadable, level =>
    spells_separated legible (spells_member legible key (spells_print value depth rereadable.1 level))
      (spells_members rest depth rereadable.2 level)

end

end Spelling

/-! ### The tokens lead to the value -/

namespace Reader

/-- The tokens lead from one state to another where so many levels may be open at once. -/
def Reaches (limit : Nat) (state : State) (tokens : List Token) (next : State) : Prop :=
  ∀ more, run limit state (tokens ++ more) = run limit next more

variable {limit : Nat}

theorem reaches_nil (state : State) : Reaches limit state [] state := fun _ => rfl

theorem Reaches.append {first second third : State} {tokens others : List Token}
    (reaches : Reaches limit first tokens second)
    (reachesThen : Reaches limit second others third) :
    Reaches limit first (tokens ++ others) third := by
  intro more
  rw [List.append_assoc, reaches, reachesThen]

/-- One token and the others. -/
theorem Reaches.cons {first second third : State} {token : Token} {others : List Token}
    (steps : step limit first token = .ok second) (reaches : Reaches limit second others third) :
    Reaches limit first (token :: others) third := by
  intro more
  rw [List.cons_append, run, steps]
  exact reaches more

theorem reaches_step {first second : State} {token : Token}
    (steps : step limit first token = .ok second) : Reaches limit first [token] second :=
  Reaches.cons steps (reaches_nil second)

/-- There is room for one more level. -/
theorem enter_of_room {stack : List Frame} (inside : Expectation) (opened : List Frame)
    {depth : Nat} (room : stack.length + (depth + 1) ≤ limit) :
    State.enter limit stack inside opened = .ok { stack := opened, expectation := inside } := by
  unfold State.enter
  exact if_neg (by omega)

/-- The first token of a value is not the end of an array. -/
theorem tokens_eq_cons (asciiOnly : Bool) (value : Json) :
    ∃ first rest, tokens asciiOnly value = first :: rest ∧ first ≠ .closeArray := by
  cases value <;> exact ⟨_, _, rfl, nofun⟩

/-- Where an array may end, it may go on with a value. -/
theorem reaches_of_value {stack : List Frame} {first : Token} {others : List Token} {next : State}
    (goesOn : first ≠ .closeArray)
    (reaches : Reaches limit { stack, expectation := .value } (first :: others) next) :
    Reaches limit { stack, expectation := .itemOrClose } (first :: others) next := by
  intro more
  rw [← reaches more, List.cons_append, run, run]
  have same : step limit { stack, expectation := .itemOrClose } first =
      step limit { stack, expectation := .value } first := by
    unfold step
    cases first <;> first | rfl | exact absurd rfl goesOn
  rw [same]

mutual

/-- The tokens of a value lead to the value that it is read as. -/
theorem reaches_tokens (asciiOnly : Bool) : ∀ (value : Json) (depth : Nat),
    IsRereadable asciiOnly depth value → ∀ stack : List Frame,
      stack.length + depth ≤ limit →
        Reaches limit { stack, expectation := .value } (tokens asciiOnly value)
          { stack, expectation := .ending (reread asciiOnly value) }
  | .null, _, _, _, _ => reaches_step rfl
  | .bool _, _, _, _, _ => reaches_step rfl
  | .integer value, _, rereadable, stack, _ => by
    refine reaches_step ((if_neg (Nat.not_lt.mpr (Token.length_digitsOf_le rereadable))).trans ?_)
    dsimp only
    rw [Token.signed_digitsOf]
    rfl
  | .double _, _, rereadable, _, _ => rereadable.elim
  | .string _, _, _, _, _ => reaches_step rfl
  | .array [], depth + 1, _, stack, room =>
    Reaches.cons (enter_of_room _ _ room) (reaches_step rfl)
  | .array (item :: rest), depth + 1, rereadable, stack, room => by
    have reachesItem := reaches_tokens asciiOnly item depth rereadable.1 (.array [] :: stack)
      (by rw [List.length_cons]; omega)
    have reachesRest := reaches_items asciiOnly rest depth rereadable.2 stack room []
      (reread asciiOnly item)
    obtain ⟨first, others, written, goesOn⟩ := tokens_eq_cons asciiOnly item
    refine Reaches.cons (enter_of_room _ _ room) ?_
    show Reaches limit _ (tokens asciiOnly item ++ itemTokens asciiOnly true rest ++ [.closeArray]) _
    rw [written] at reachesItem ⊢
    rw [List.append_assoc]
    exact (reaches_of_value goesOn reachesItem).append reachesRest
  | .object [], depth + 1, _, stack, room =>
    Reaches.cons (enter_of_room _ _ room) (reaches_step rfl)
  | .object ((key, value) :: rest), depth + 1, rereadable, stack, room => by
    have reachesValue := reaches_tokens asciiOnly value depth rereadable.2.1
      (.object [] (rereadString asciiOnly key) :: stack) (by rw [List.length_cons]; omega)
    have reachesRest := reaches_members asciiOnly rest depth rereadable.2.2 stack room []
      (rereadString asciiOnly key) (reread asciiOnly value)
    have distinct : Dict.ofEntries (rereadMembers asciiOnly ((key, value) :: rest)) =
        rereadMembers asciiOnly ((key, value) :: rest) :=
      Dict.ofEntries_of_nodup rereadable.1
    refine Reaches.cons (enter_of_room _ _ room) ?_
    show Reaches limit _ (.string (rereadString asciiOnly key) :: .colon ::
      (tokens asciiOnly value ++ memberTokens asciiOnly true rest ++ [.closeObject])) _
    refine Reaches.cons rfl (Reaches.cons rfl ?_)
    rw [List.append_assoc, reread, ← distinct]
    exact reachesValue.append reachesRest

/-- The tokens of further items lead to the whole array. -/
theorem reaches_items (asciiOnly : Bool) : ∀ (items : List Json) (depth : Nat),
    AreRereadable asciiOnly depth items → ∀ stack : List Frame,
      stack.length + (depth + 1) ≤ limit → ∀ (before : List Json) (last : Json),
        Reaches limit { stack := .array before :: stack, expectation := .ending last }
          (itemTokens asciiOnly true items ++ [.closeArray])
          { stack, expectation := .ending
              (.array (before.reverse ++ last :: rereadItems asciiOnly items)) }
  | [], _, _, stack, _, before, last => by
    have steps : step limit { stack := .array before :: stack, expectation := .ending last }
        .closeArray = .ok { stack, expectation := .ending (.array (last :: before).reverse) } := rfl
    rw [List.reverse_cons] at steps
    exact reaches_step steps
  | item :: rest, depth, rereadable, stack, room, before, last => by
    have reachesItem := reaches_tokens asciiOnly item depth rereadable.1
      (.array (last :: before) :: stack) (by rw [List.length_cons]; omega)
    have reachesRest := reaches_items asciiOnly rest depth rereadable.2 stack room
      (last :: before) (reread asciiOnly item)
    rw [List.reverse_cons, List.append_assoc] at reachesRest
    show Reaches limit _ (.comma ::
      (tokens asciiOnly item ++ itemTokens asciiOnly true rest ++ [.closeArray])) _
    rw [List.append_assoc]
    exact Reaches.cons rfl (reachesItem.append reachesRest)

/-- The tokens of further members lead to the whole object. -/
theorem reaches_members (asciiOnly : Bool) : ∀ (members : List (Text × Json)) (depth : Nat),
    HaveRereadable asciiOnly depth members → ∀ stack : List Frame,
      stack.length + (depth + 1) ≤ limit →
        ∀ (before : List (Text × Json)) (key : Text) (last : Json),
          Reaches limit { stack := .object before key :: stack, expectation := .ending last }
            (memberTokens asciiOnly true members ++ [.closeObject])
            { stack, expectation := .ending (.object (Dict.ofEntries
                (before.reverse ++ (key, last) :: rereadMembers asciiOnly members))) }
  | [], _, _, stack, _, before, key, last => by
    have steps : step limit { stack := .object before key :: stack, expectation := .ending last }
        .closeObject = .ok { stack, expectation := .ending (.object
          (Dict.ofEntries ((key, last) :: before).reverse)) } := rfl
    rw [List.reverse_cons] at steps
    exact reaches_step steps
  | (name, value) :: rest, depth, rereadable, stack, room, before, key, last => by
    have reachesValue := reaches_tokens asciiOnly value depth rereadable.1
      (.object ((key, last) :: before) (rereadString asciiOnly name) :: stack)
      (by rw [List.length_cons]; omega)
    have reachesRest := reaches_members asciiOnly rest depth rereadable.2 stack room
      ((key, last) :: before) (rereadString asciiOnly name) (reread asciiOnly value)
    rw [List.reverse_cons, List.append_assoc] at reachesRest
    show Reaches limit _ (.comma :: .string (rereadString asciiOnly name) :: .colon ::
      (tokens asciiOnly value ++ memberTokens asciiOnly true rest ++ [.closeObject])) _
    rw [List.append_assoc]
    exact Reaches.cons rfl (Reaches.cons rfl (Reaches.cons rfl (reachesValue.append reachesRest)))

end

end Reader

/-- Text that spells the tokens of a value holds what the value is read as. -/
theorem read_of_spells {asciiOnly : Bool} {text : Text} {value : Json} {depth limit : Nat}
    (spells : SpellsBefore text (tokens asciiOnly value)) (room : depth ≤ limit)
    (rereadable : IsRereadable asciiOnly depth value) :
    read text limit = .ok (reread asciiOnly value) := by
  have listed : Token.list text = tokens asciiOnly value ++ [] := by
    have whole := spells [] nofun
    rw [List.append_nil] at whole
    exact whole
  have reached : Reader.Reaches limit _ _ _ := Reader.reaches_tokens asciiOnly value depth
    rereadable [] (by rw [List.length_nil]; omega)
  unfold read
  rw [listed, reached []]
  rfl

/-- A value that is written in a legible layout can be read again. -/
theorem read_write {layout : Layout} (legible : layout.IsLegible) {value : Json}
    {depth limit : Nat} (room : depth ≤ limit)
    (rereadable : IsRereadable layout.asciiOnly depth value) :
    read (value.write layout) limit = .ok (reread layout.asciiOnly value) :=
  read_of_spells (spells_print legible value depth rereadable 0) room rereadable

end ApiDoc.Json
