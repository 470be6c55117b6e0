/-
This file carries the bounds on numbers through the reading of JSON: the digits of a token are
decimal, the reader refuses too many of them, and nothing it does makes a number longer. So the
identifiers of an enumeration are short, however its rows give them.
-/
import ApiDoc.Enumeration.Rows
import ApiDoc.Json.Body
import ApiDoc.Proofs.Attempts
import ApiDoc.Proofs.ShortNumbers

namespace ApiDoc

namespace Json

mutual

/-- All numbers in the value are short. -/
def IsShort : Json → Prop
  | .null | .bool _ | .string _ => True
  | .integer value => Numeral.IsShort value
  | .double value => value.IsShort
  | .array items => AreShort items
  | .object members => HaveShort members

/-- All numbers in the items are short. -/
def AreShort : List Json → Prop
  | [] => True
  | item :: rest => IsShort item ∧ AreShort rest

/-- All numbers in the members are short. -/
def HaveShort : List (Text × Json) → Prop
  | [] => True
  | (_, value) :: rest => IsShort value ∧ HaveShort rest

end

theorem areShort_iff (items : List Json) : AreShort items ↔ ∀ item ∈ items, IsShort item := by
  induction items with
  | nil => exact iff_of_true trivial fun _ member => nomatch member
  | cons item rest inductionHypothesis =>
    rw [AreShort, inductionHypothesis, List.forall_mem_cons]

theorem haveShort_iff (members : List (Text × Json)) :
    HaveShort members ↔ ∀ entry ∈ members, IsShort entry.2 := by
  induction members with
  | nil => exact iff_of_true trivial fun _ member => nomatch member
  | cons entry rest inductionHypothesis =>
    rw [HaveShort, inductionHypothesis, List.forall_mem_cons]

/-! ### Tokens -/

namespace Token

/-- The digits of a token are decimal, and the number that it is otherwise is short. -/
def IsShort : Token → Prop
  | .integer _ digits => ∀ digit ∈ digits, digit < 10
  | .double value => value.IsShort
  | .word value => Json.IsShort value
  | .openArray | .closeArray | .openObject | .closeObject | .comma | .colon | .string _
  | .broken => True

/-- All tokens are short. -/
def AllShort (tokens : List Token) : Prop := ∀ token ∈ tokens, token.IsShort

theorem allShort_nil : AllShort [] := fun _ member => nomatch member

theorem allShort_singleton {token : Token} (short : token.IsShort) : AllShort [token] :=
  fun _ member => List.mem_singleton.mp member ▸ short

theorem AllShort.append {first second : List Token} (short : AllShort first)
    (shortSecond : AllShort second) : AllShort (first ++ second) :=
  fun token member => (List.mem_append.mp member).elim (short token) (shortSecond token)

theorem takeDigits_lt (text : Text) : ∀ digit ∈ (takeDigits text).1, digit < 10 := by
  induction text with
  | nil => exact fun _ member => nomatch member
  | cons point rest inductionHypothesis =>
    rw [takeDigits]
    cases shown : point.asciiDigit? with
    | none => exact fun _ member => nomatch member
    | some value =>
      intro digit member
      rcases List.mem_cons.mp member with rfl | later
      · cases point with
        | surrogate half => cases shown
        | char character =>
          rw [CodePoint.asciiDigit?] at shown
          split at shown
          · rename_i within
            cases shown
            have most : character.toNat ≤ '9'.toNat := within.2
            have nine : '9'.toNat = 57 := rfl
            omega
          · cases shown
      · exact inductionHypothesis digit later

theorem takeWhole_lt (text : Text) : ∀ digit ∈ (takeWhole text).1, digit < 10 := by
  unfold takeWhole
  split
  · exact fun digit member => List.mem_singleton.mp member ▸ by decide
  · exact takeDigits_lt text

theorem isShort_takeNumber {text after : Text} {token : Token}
    (takes : takeNumber text = some (token, after)) : token.IsShort := by
  unfold takeNumber at takes
  split at takes
  rename_i negative body parts
  split at takes
  · cases takes
  · rename_i whole afterWhole nonempty taken
    dsimp only at takes
    split at takes
    · cases takes
      exact Double.isShort_nearestDecimal _ _ _ _
    · split at takes
      · cases takes
        exact fun digit member => takeWhole_lt body digit (taken ▸ member)
      · cases takes
        exact Double.isShort_nearestDecimal _ _ _ _

theorem allShort_ofBare (run : Text) : AllShort (ofBare run) := by
  have known : ∀ entry ∈ words, Json.IsShort entry.2 := by
    simp [words, Json.IsShort, Double.IsShort, Double.truncate?]
  unfold ofBare
  split
  · rename_i value found
    exact allShort_singleton (known _ (Dict.mem_of_get?_eq_some found))
  · split
    · rename_i taken
      exact allShort_singleton (isShort_takeNumber taken)
    · rename_i token _ _ taken
      exact (allShort_singleton (isShort_takeNumber taken)).append (allShort_singleton trivial)
    · exact allShort_singleton trivial

theorem isShort_punctuation {point : CodePoint} {token : Token}
    (punctuates : punctuation? point = some token) : token.IsShort := by
  unfold punctuation? at punctuates
  split at punctuates <;> cases punctuates <;> trivial

theorem allShort_passOutside (pending : Text) (point : CodePoint) :
    AllShort (passOutside pending point).1 := by
  have ended : AllShort (if pending.isEmpty then [] else ofBare pending.reverse) := by
    split
    · exact allShort_nil
    · exact allShort_ofBare _
  unfold passOutside
  dsimp only
  split
  · exact ended
  · split
    · exact ended
    · split
      · rename_i punctuates
        exact ended.append (allShort_singleton (isShort_punctuation punctuates))
      · exact allShort_nil

theorem allShort_pass (place : Place) (point : CodePoint) : AllShort (pass place point).1 := by
  cases place with
  | between => exact allShort_passOutside [] point
  | bare read => exact allShort_passOutside read point
  | lost => exact allShort_nil
  | string read high =>
    rw [pass]
    split_ifs <;> first | exact allShort_singleton trivial | exact allShort_nil
  | escape read high =>
    rw [pass]
    split
    · exact allShort_nil
    · split <;> first | exact allShort_singleton trivial | exact allShort_nil
  | escapeDigits read high count value =>
    rw [pass]
    split
    · exact allShort_singleton trivial
    · dsimp only
      split <;> exact allShort_nil

theorem allShort_listFrom (place : Place) (text : Text) : AllShort (listFrom place text) := by
  induction text generalizing place with
  | nil =>
    cases place with
    | between | lost => exact allShort_nil
    | bare read => exact allShort_ofBare _
    | string | escape | escapeDigits => exact allShort_singleton trivial
  | cons point rest inductionHypothesis =>
    rw [listFrom]
    exact (allShort_pass place point).append (inductionHypothesis _)

end Token

/-! ### The reader -/

namespace Reader

/-- What an open array or object holds so far is short. -/
def Frame.IsShort : Frame → Prop
  | .array items => AreShort items
  | .object members _ => HaveShort members

/-- What has been read last is short. -/
def Expectation.IsShort : Expectation → Prop
  | .value | .itemOrClose | .memberOrClose => True
  | .key members | .colon members _ => HaveShort members
  | .ending ended => Json.IsShort ended

/-- All that has been read is short. -/
structure State.IsShort (state : State) : Prop where
  stack : ∀ frame ∈ state.stack, frame.IsShort
  expectation : state.expectation.IsShort

variable {limit : Nat} {stack : List Frame} {token : Token} {next : State}

theorem isShort_enter {inside : Expectation} {opened : List Frame}
    (enters : State.enter limit stack inside opened = .ok next)
    (short : ∀ frame ∈ opened, frame.IsShort) (shortInside : inside.IsShort) : next.IsShort := by
  unfold State.enter at enters
  split at enters
  · cases enters
  · cases enters
    exact ⟨short, shortInside⟩

theorem isShort_begin (short : ∀ frame ∈ stack, frame.IsShort) (shortToken : token.IsShort)
    (begins : begin limit stack token = .ok next) : next.IsShort := by
  cases token with
  | openArray =>
    exact isShort_enter begins (List.forall_mem_cons.mpr ⟨trivial, short⟩) trivial
  | openObject => exact isShort_enter begins short trivial
  | word value => cases begins; exact ⟨short, shortToken⟩
  | double value => cases begins; exact ⟨short, shortToken⟩
  | string value => cases begins; exact ⟨short, trivial⟩
  | integer negative digits =>
    rw [begin] at begins
    split at begins
    · cases begins
    · rename_i few
      cases begins
      exact ⟨short, Numeral.isShort_signed shortToken (Nat.le_of_not_lt few) negative⟩
  | closeArray | closeObject | comma | colon | broken => cases begins

/-- An object holds no value beyond those of its members. -/
theorem haveShort_ofEntries {members : List (Text × Json)} (short : HaveShort members) :
    HaveShort (Dict.ofEntries members) := by
  rw [haveShort_iff] at short ⊢
  exact fun entry member => short entry (Dict.mem_of_mem_ofEntries member)

theorem isShort_close {value : Json} (shortValue : value.IsShort)
    (short : ∀ frame ∈ stack, frame.IsShort) (closes : close value stack token = .ok next) :
    next.IsShort := by
  unfold close at closes
  split at closes
  · cases closes
    rw [List.forall_mem_cons] at short
    exact ⟨List.forall_mem_cons.mpr ⟨⟨shortValue, short.1⟩, short.2⟩, trivial⟩
  · rename_i items outer
    cases closes
    rw [List.forall_mem_cons] at short
    have all : AreShort (value :: items) := ⟨shortValue, short.1⟩
    rw [areShort_iff] at all
    exact ⟨short.2, (areShort_iff _).mpr fun item member => all item (List.mem_reverse.mp member)⟩
  · cases closes
    rw [List.forall_mem_cons] at short
    exact ⟨short.2, shortValue, short.1⟩
  · rename_i members key outer
    cases closes
    rw [List.forall_mem_cons] at short
    have all : HaveShort ((key, value) :: members) := ⟨shortValue, short.1⟩
    rw [haveShort_iff] at all
    exact ⟨short.2, haveShort_ofEntries
      ((haveShort_iff _).mpr fun entry member => all entry (List.mem_reverse.mp member))⟩
  · cases closes

/-- A token leaves short what is short. -/
theorem isShort_step {state : State} (short : state.IsShort) (shortToken : token.IsShort)
    (steps : step limit state token = .ok next) : next.IsShort := by
  obtain ⟨stack, expectation⟩ := state
  obtain ⟨shortStack, shortExpectation⟩ := short
  unfold step at steps
  dsimp only at steps shortStack shortExpectation
  split at steps
  · exact isShort_begin shortStack shortToken steps
  · cases steps
    exact ⟨fun frame member => shortStack frame (List.mem_of_mem_drop member), trivial⟩
  · exact isShort_begin shortStack shortToken steps
  · cases steps
    exact ⟨shortStack, trivial⟩
  · cases steps
    exact ⟨shortStack, trivial⟩
  · cases steps
  · cases steps
    exact ⟨shortStack, shortExpectation⟩
  · cases steps
  · cases steps
    exact ⟨List.forall_mem_cons.mpr ⟨shortExpectation, shortStack⟩, trivial⟩
  · cases steps
  · exact isShort_close shortExpectation shortStack steps

theorem isShort_run {state : State} (short : state.IsShort) {tokens : List Token}
    (shortTokens : Token.AllShort tokens) (runs : run limit state tokens = .ok next) :
    next.IsShort := by
  induction tokens generalizing state with
  | nil =>
    cases runs
    exact short
  | cons token rest inductionHypothesis =>
    rw [run] at runs
    split at runs
    · rename_i after steps
      exact inductionHypothesis (isShort_step short (shortTokens token List.mem_cons_self) steps)
        (fun other member => shortTokens other (.tail _ member)) runs
    · cases runs

end Reader

/-- What is read of a text is short. -/
theorem isShort_read {text : Text} {limit : Nat} {value : Json}
    (reads : read text limit = .ok value) : value.IsShort := by
  obtain ⟨state, ran, ended⟩ := bind_eq_ok_iff.mp reads
  have initially : Reader.State.IsShort { stack := [], expectation := .value } :=
    ⟨fun _ member => absurd member List.not_mem_nil, trivial⟩
  have short := Reader.isShort_run initially (Token.allShort_listFrom .between text) ran
  unfold Reader.result at ended
  split at ended
  · cases ended
    exact short.expectation
  · cases ended

theorem isShort_readBody {bytes : Bytes} {limit : Nat} {value : Json}
    (reads : readBody bytes limit = .ok value) : value.IsShort := by
  unfold readBody at reads
  split at reads
  · cases reads
  · split at reads
    · rename_i found
      cases reads
      exact isShort_read found
    · cases reads

end Json

/-! ### Enumerations -/

namespace Enumeration

/-- The identifiers of the enumeration are short. -/
def IsShort (definition : Enumeration) : Prop :=
  ∀ value ∈ definition.values, Numeral.IsShort value.1

theorem isShort_identifier {name : Text} {written : Json} (short : written.IsShort) {value : Int}
    (denotes : identifier name written = .ok value) : Numeral.IsShort value := by
  unfold identifier at denotes
  split at denotes
  · cases denotes
    exact short
  · rename_i holds
    cases denotes
    have small : 1 < 10 ^ maximalDigits := Nat.one_lt_pow (by decide) (by decide)
    cases holds with
    | false => exact Nat.lt_trans Nat.zero_lt_one small
    | true => exact small
  · split at denotes
    · rename_i truncated
      cases denotes
      exact short value truncated
    · cases denotes
  · split at denotes
    · rename_i reads
      cases denotes
      exact Numeral.isShort_read reads
    · cases denotes
    · cases denotes
  · cases denotes
  · cases denotes
  · cases denotes

theorem isShort_ofRow {name : Text} {row : Json} (short : row.IsShort) {value : Int × Text}
    (gives : ofRow name row = .ok value) : Numeral.IsShort value.1 := by
  unfold ofRow at gives
  split at gives
  · rename_i members
    cases found : Dict.get? members identifierKey with
    | none => rw [found] at gives; cases gives
    | some written =>
      have shortWritten : written.IsShort :=
        (Json.haveShort_iff members).mp short _ (Dict.mem_of_get?_eq_some found)
      rw [found] at gives
      obtain ⟨integer, denotes, describes⟩ := bind_eq_ok_iff.mp gives
      cases described : Dict.get? members descriptionKey with
      | none => rw [described] at describes; cases describes
      | some description =>
        rw [described] at describes
        cases describes
        exact isShort_identifier shortWritten denotes
  · cases gives

theorem areShort_rowsOf? {value : Json} (short : value.IsShort) {rows : List Json}
    (consists : rowsOf? value = some rows) : ∀ row ∈ rows, row.IsShort := by
  unfold rowsOf? at consists
  split at consists
  · cases consists
    exact (Json.areShort_iff rows).mp short
  · cases consists
    intro row member
    obtain ⟨entry, _, rfl⟩ := List.mem_map.mp member
    trivial
  · cases consists
    intro row member
    obtain ⟨point, _, rfl⟩ := List.mem_map.mp member
    trivial
  all_goals cases consists

/-- An enumeration whose rows were read has short identifiers. -/
theorem isShort_ofJson {name : Text} {value : Json} (short : value.IsShort)
    {definition : Enumeration} (gives : ofJson name value = .ok definition) :
    definition.IsShort := by
  unfold ofJson at gives
  split at gives
  · cases gives
  · rename_i rows consists
    obtain ⟨values, given, same⟩ := bind_eq_ok_iff.mp gives
    cases same
    intro listed member
    obtain ⟨row, among, gave⟩ := exists_of_forall₂ (mapM_eq_ok_iff.mp given) member
    exact isShort_ofRow (areShort_rowsOf? short consists row among) gave

end Enumeration

end ApiDoc
