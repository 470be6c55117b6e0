/-
This file says which rows of an enumeration are taken over faithfully. A row gives an entry if it holds
an integer, as that integer, as a number of its value or as a numeral, and a text that describes it. A
row that gives none is refused, unless it is bent into an entry: a boolean or a number with a fraction
passes for an identifier, and anything for a description. An infinite identifier is neither refused nor
bent: reading it fails in a way that no caller expects.
-/
import ApiDoc.Proofs.Numerals
import ApiDoc.Proofs.Reading
import ApiDoc.Proofs.UnusableReplies
import Mathlib.Data.Rat.Floor

namespace ApiDoc

/-! ### Doubles as rational numbers -/

namespace Double

/-- The rational number that a finite double is. -/
def rational? : Double → Option ℚ
  | .finite negative significand exponent =>
    some (Numeral.signed negative significand * 2 ^ exponent)
  | .nan | .infinity _ => none

/-- A rational number without its fractional part. -/
def integerPart (number : ℚ) : Int := if number < 0 then ⌈number⌉ else ⌊number⌋

theorem integerPart_intCast (value : Int) : integerPart value = value := by
  unfold integerPart
  split
  · exact Int.ceil_intCast value
  · exact Int.floor_intCast value

theorem integerPart_of_nonneg {number : ℚ} (nonnegative : 0 ≤ number) :
    integerPart number = ⌊number⌋ := if_neg (not_lt.mpr nonnegative)

theorem integerPart_neg {number : ℚ} (nonnegative : 0 ≤ number) :
    integerPart (-number) = -⌊number⌋ := by
  unfold integerPart
  split
  · exact Int.ceil_neg
  · rename_i notNegative
    have zero : number = 0 := le_antisymm (by linarith) nonnegative
    simp [zero]

/-- The magnitude of a finite double as a quotient of natural numbers. -/
theorem magnitude_eq_quotient (significand : Nat) (exponent : Int) :
    (significand : ℚ) * 2 ^ exponent =
      (significand * 2 ^ exponent.toNat : Nat) / (2 ^ (-exponent).toNat : Nat) := by
  rcases Int.le_total 0 exponent with nonnegative | negative
  · obtain ⟨power, rfl⟩ := Int.eq_ofNat_of_zero_le nonnegative
    simp
  · obtain ⟨power, opposite⟩ := Int.eq_ofNat_of_zero_le (Int.neg_nonneg_of_nonpos negative)
    obtain rfl : exponent = -(power : Int) := by omega
    simp [div_eq_mul_inv]

/-- A double is truncated to its integer part. -/
theorem truncate?_eq (double : Double) : double.truncate? = double.rational?.map integerPart := by
  cases double with
  | nan => rfl
  | infinity negative => rfl
  | finite negative significand exponent =>
    have floored : ⌊(significand : ℚ) * 2 ^ exponent⌋ =
        ((significand * 2 ^ exponent.toNat / 2 ^ (-exponent).toNat : Nat) : Int) := by
      rw [magnitude_eq_quotient, Rat.floor_natCast_div_natCast, Int.natCast_div]
    have nonnegative : 0 ≤ (significand : ℚ) * 2 ^ exponent :=
      mul_nonneg (Nat.cast_nonneg _) (zpow_nonneg zero_le_two _)
    unfold truncate? rational? Numeral.signed
    cases negative with
    | false =>
      rw [Option.map_some, Option.some_inj, if_neg Bool.false_ne_true, if_neg Bool.false_ne_true,
        Int.cast_natCast, integerPart_of_nonneg nonnegative, floored]
      rfl
    | true =>
      rw [Option.map_some, Option.some_inj, if_pos rfl, if_pos rfl, Int.cast_neg, Int.cast_natCast,
        neg_mul, integerPart_neg nonnegative, floored]
      rfl

end Double

/-! ### Values that denote integers -/

namespace Json

/-- A value denotes an integer: it is that integer, a number of the same value, or a numeral. -/
inductive Denotes : Json → Int → Prop where
  | integer (value : Int) : Denotes (.integer value) value
  | number {double : Double} {value : Int} (equal : double.rational? = some (value : ℚ)) :
    Denotes (.double double) value
  | numeral {text : Text} {value : Int} (spells : Numeral.Denotes text value) :
    Denotes (.string text) value

/-- A value passes for an integer that it does not denote: a boolean, or a number with a fraction. -/
inductive PassesFor : Json → Int → Prop where
  | truth (value : Bool) : PassesFor (.bool value) (if value then 1 else 0)
  | fraction {double : Double} {number : ℚ} (finite : double.rational? = some number)
    (uneven : ∀ value : Int, number ≠ value) :
    PassesFor (.double double) (Double.integerPart number)

variable {written : Json} {value : Int}

theorem PassesFor.not_denotes (passes : PassesFor written value) (other : Int) :
    ¬ Denotes written other := by
  intro denotes
  cases passes with
  | truth => cases denotes
  | fraction finite uneven =>
    cases denotes with
    | number equal =>
      rw [finite, Option.some_inj] at equal
      exact uneven other equal

theorem not_denotes_infinity (negative : Bool) (value : Int) :
    ¬ Denotes (.double (.infinity negative)) value := by
  intro denotes
  cases denotes with
  | number equal => cases equal

end Json

namespace Enumeration

open Failure (IsAbrupt)

/-! ### Identifiers -/

theorem identifier_of_denotes {name : Text} {written : Json} {value : Int}
    (denotes : written.Denotes value) : identifier name written = .ok value := by
  cases denotes with
  | integer => rfl
  | @number double _ equal =>
    have truncated : double.truncate? = some value := by
      rw [Double.truncate?_eq, equal, Option.map_some, Double.integerPart_intCast]
    unfold identifier
    dsimp only
    rw [truncated]
  | numeral spells =>
    unfold identifier
    dsimp only
    rw [Numeral.read_of_denotes spells]

theorem identifier_of_passesFor {name : Text} {written : Json} {value : Int}
    (passes : written.PassesFor value) : identifier name written = .ok value := by
  cases passes with
  | truth => rfl
  | @fraction double number finite uneven =>
    have truncated : double.truncate? = some (Double.integerPart number) := by
      rw [Double.truncate?_eq, finite, Option.map_some]
    unfold identifier
    dsimp only
    rw [truncated]

/-- The identifiers are the integers that values denote or pass for. -/
theorem identifier_eq_ok_iff {name : Text} {written : Json} {value : Int} :
    identifier name written = .ok value ↔ written.Denotes value ∨ written.PassesFor value := by
  constructor
  · intro reads
    cases written with
    | integer => cases reads; exact Or.inl (.integer _)
    | bool => cases reads; exact Or.inr (.truth _)
    | double double =>
      unfold identifier at reads
      dsimp only at reads
      rw [Double.truncate?_eq] at reads
      cases finite : double.rational? with
      | none => rw [finite] at reads; cases reads
      | some number =>
        rw [finite] at reads
        cases reads
        by_cases even : ∃ value : Int, number = value
        · obtain ⟨value, rfl⟩ := even
          rw [Double.integerPart_intCast]
          exact Or.inl (.number finite)
        · exact Or.inr (.fraction finite (not_exists.mp even))
    | string text =>
      unfold identifier at reads
      dsimp only at reads
      split at reads
      · rename_i spelled
        cases reads
        exact Or.inl (.numeral (Numeral.denotes_of_read spelled))
      · cases reads
      · cases reads
    | null | array | object => cases reads
  · rintro (denotes | passes)
    · exact identifier_of_denotes denotes
    · exact identifier_of_passesFor passes

/-! ### Rows -/

/-- A row gives an entry: the integer that its identifier denotes, and the text that describes it. -/
inductive Gives : Json → Int × Text → Prop where
  | intro {members : Dict Json} {written : Json} {value : Int} {label : Text}
    (identified : members.get? identifierKey = some written) (denotes : written.Denotes value)
    (described : members.get? descriptionKey = some (.string label)) :
    Gives (.object members) (value, label)

/-- A row is bent into an entry that it does not give: its identifier only passes for an integer, or
its description is no text and becomes one. -/
inductive BentTo : Json → Int × Text → Prop where
  | identifier {members : Dict Json} {written description : Json} {value : Int}
    (identified : members.get? identifierKey = some written) (passes : written.PassesFor value)
    (described : members.get? descriptionKey = some description) :
    BentTo (.object members) (value, description.label)
  | description {members : Dict Json} {written description : Json} {value : Int}
    (identified : members.get? identifierKey = some written) (denotes : written.Denotes value)
    (described : members.get? descriptionKey = some description)
    (noText : ∀ label, description ≠ .string label) :
    BentTo (.object members) (value, description.label)

variable {name : Text} {row : Json} {entry : Int × Text}

theorem BentTo.not_gives (bent : BentTo row entry) (other : Int × Text) : ¬ Gives row other := by
  rintro ⟨identified, denotes, described⟩
  cases bent with
  | identifier sameIdentified passes _ =>
    rw [sameIdentified, Option.some_inj] at identified
    exact (identified ▸ passes).not_denotes _ denotes
  | description _ _ sameDescribed noText =>
    rw [sameDescribed, Option.some_inj] at described
    exact noText _ described

/-- A row is read if it has an identifier that can be read and a description. -/
theorem ofRow_eq_ok_iff_members : ofRow name row = .ok entry ↔
    ∃ members written description, row = .object members ∧
      Dict.get? members identifierKey = some written ∧ identifier name written = .ok entry.1 ∧
      Dict.get? members descriptionKey = some description ∧ description.label = entry.2 := by
  constructor
  · intro reads
    cases row with
    | object members =>
      unfold ofRow at reads
      dsimp only at reads
      cases identified : Dict.get? members identifierKey with
      | none => rw [identified] at reads; cases reads
      | some written =>
        rw [identified] at reads
        obtain ⟨value, identifies, reads⟩ := bind_eq_ok_iff.mp reads
        cases described : Dict.get? members descriptionKey with
        | none => rw [described] at reads; cases reads
        | some description =>
          rw [described] at reads
          cases reads
          exact ⟨members, written, description, rfl, identified, identifies, described, rfl⟩
    | null | bool | integer | double | string | array => cases reads
  · obtain ⟨value, label⟩ := entry
    rintro ⟨members, written, description, rfl, identified, identifies, described, rfl⟩
    unfold ofRow
    dsimp only
    rw [identified]
    refine bind_eq_ok_iff.mpr ⟨value, identifies, ?_⟩
    rw [described]
    rfl

/-- What a row is read as is what it gives or is bent to. -/
theorem ofRow_eq_ok_iff : ofRow name row = .ok entry ↔ Gives row entry ∨ BentTo row entry := by
  rw [ofRow_eq_ok_iff_members]
  constructor
  · obtain ⟨value, label⟩ := entry
    rintro ⟨members, written, description, rfl, identified, identifies, described, rfl⟩
    rcases identifier_eq_ok_iff.mp identifies with denotes | passes
    · by_cases text : ∃ label, description = .string label
      · obtain ⟨label, rfl⟩ := text
        exact Or.inl (.intro identified denotes described)
      · exact Or.inr (.description identified denotes described (not_exists.mp text))
    · exact Or.inr (.identifier identified passes described)
  · rintro (⟨identified, denotes, described⟩ | bent)
    · exact ⟨_, _, _, rfl, identified, identifier_of_denotes denotes, described, rfl⟩
    · cases bent with
      | identifier identified passes described =>
        exact ⟨_, _, _, rfl, identified, identifier_of_passesFor passes, described, rfl⟩
      | description identified denotes described =>
        exact ⟨_, _, _, rfl, identified, identifier_of_denotes denotes, described, rfl⟩

/-! ### Answers -/

/-- The rows of a value; what is not made of rows has none. -/
def rows (value : Json) : List Json := (rowsOf? value).getD []

/-- Rows are taken over faithfully: an enumeration has the asked name and one entry for each row, in
order, which the row gives; and rows of which one gives none are refused as malformed. -/
structure IsFaithful (name : Text) (value : Json) (outcome : Except Failure Enumeration) : Prop where
  accepted : ∀ enumeration, outcome = .ok enumeration →
    enumeration.name = name ∧ List.Forall₂ Gives (rows value) enumeration.values
  refused : (∃ row ∈ rows value, ∀ entry, ¬ Gives row entry) →
    ∃ cause, outcome = .error (.malformed cause)

/-- A row is taken as an entry that it gives or is bent to. -/
def TakenAs (row : Json) (entry : Int × Text) : Prop := Gives row entry ∨ BentTo row entry

/-- All rows are taken as entries, and some are bent. -/
def AreBent (value : Json) : Prop :=
  (∀ row ∈ rows value, ∃ entry, TakenAs row entry) ∧
    ∃ row ∈ rows value, ∃ entry, BentTo row entry

variable {value : Json}

/-- Rows are read as what they are taken as. -/
theorem mapM_ofRow_eq_ok_iff {given : List Json} {entries : List (Int × Text)} :
    given.mapM (ofRow name) = .ok entries ↔ List.Forall₂ TakenAs given entries := by
  rw [mapM_eq_ok_iff]
  simp only [ofRow_eq_ok_iff]
  rfl

/-- A value is accepted exactly if it consists of rows that are taken as entries. -/
theorem ofJson_eq_ok_iff {enumeration : Enumeration} : ofJson name value = .ok enumeration ↔
    (rowsOf? value).isSome = true ∧ enumeration.name = name ∧
      List.Forall₂ TakenAs (rows value) enumeration.values := by
  unfold ofJson rows
  cases rowsOf? value with
  | none => exact iff_of_false nofun fun accepted => nomatch accepted.1
  | some given =>
    dsimp only [Option.getD_some]
    rw [bind_eq_ok_iff]
    simp only [mapM_ofRow_eq_ok_iff]
    constructor
    · rintro ⟨entries, taken, same⟩
      cases same
      exact ⟨rfl, rfl, taken⟩
    · rintro ⟨-, rfl, taken⟩
      exact ⟨enumeration.values, taken, rfl⟩

/-- Whatever is not accepted is malformed or has an infinite identifier. -/
theorem eq_malformed_of_ofJson {failure : Failure} (fails : ofJson name value = .error failure) :
    (∃ cause, failure = .malformed cause) ∨
      failure = .infiniteIdentifier ∧ HasInfiniteIdentifier name value := by
  by_cases malformed : ∃ cause, failure = .malformed cause
  · exact Or.inl malformed
  · -- a kind that holds nothing but the failure at hand is abrupt
    have abrupt : IsAbrupt (fun other => decide (other = failure)) := fun cause =>
      decide_eq_false fun same => malformed ⟨cause, same.symm⟩
    obtain ⟨infinite, same⟩ :=
      (among_ofJson abrupt name value).mp ⟨failure, fails, decide_eq_true rfl⟩
    exact Or.inr ⟨(of_decide_eq_true same).symm, infinite⟩

/-- An infinite identifier ends everything. -/
theorem ofJson_of_hasInfiniteIdentifier (infinite : HasInfiniteIdentifier name value) :
    ofJson name value = .error .infiniteIdentifier := by
  have abrupt : IsAbrupt (fun failure => decide (failure = .infiniteIdentifier)) := fun _ => rfl
  obtain ⟨failure, fails, same⟩ :=
    (among_ofJson abrupt name value).mpr ⟨infinite, decide_eq_true rfl⟩
  rw [fails, of_decide_eq_true same]

/-- A row with an infinite identifier gives no entry. -/
theorem exists_giving_none (infinite : HasInfiniteIdentifier name value) :
    ∃ row ∈ rows value, ∀ entry, ¬ Gives row entry := by
  obtain ⟨before, members, after, negative, rfl, -, identified⟩ := infinite
  refine ⟨.object members, List.mem_append_right _ List.mem_cons_self, ?_⟩
  rintro _ ⟨sameIdentified, denotes, _⟩
  rw [identified, Option.some_inj] at sameIdentified
  exact Json.not_denotes_infinity negative _ (sameIdentified ▸ denotes)

/-- A value whose rows are all taken as entries, of which it has some, is accepted. -/
theorem exists_ofJson_of_areBent (name : Text) (bent : AreBent value) :
    ∃ enumeration, ofJson name value = .ok enumeration := by
  obtain ⟨taken, row, member, -⟩ := bent
  unfold rows at taken member
  unfold ofJson
  generalize rowsOf? value = found at taken member ⊢
  cases found with
  | none => cases member
  | some given =>
    dsimp only [Option.getD_some] at taken ⊢
    cases outcome : given.mapM (ofRow name) with
    | ok entries => exact ⟨_, rfl⟩
    | error failure =>
      obtain ⟨before, refused, after, rfl, -, fails⟩ := mapM_eq_error_iff.mp outcome
      obtain ⟨entry, takenAs⟩ :=
        taken refused (List.mem_append_right _ List.mem_cons_self)
      rw [ofRow_eq_ok_iff.mpr takenAs] at fails
      cases fails

/-- The entries of an accepted value are given by its rows unless some are bent. -/
theorem forall₂_gives_or_areBent {entries : List (Int × Text)}
    (taken : List.Forall₂ TakenAs (rows value) entries) :
    List.Forall₂ Gives (rows value) entries ∨ AreBent value := by
  by_cases unbent : ∀ row ∈ rows value, ∀ entry, ¬ BentTo row entry
  · have each := (List.forall₂_and_left _ _).mpr ⟨unbent, taken⟩
    exact Or.inl (each.imp fun row entry both => both.2.resolve_right (both.1 entry))
  · refine Or.inr ⟨fun row member => ?_, by simpa using unbent⟩
    obtain ⟨entry, _, holds⟩ := exists_of_forall₂ taken.flip member
    exact ⟨entry, holds⟩

/-- Where every row gives an entry none is bent, and none has an infinite identifier. -/
theorem not_areBent_of_forall₂ {entries : List (Int × Text)} (name : Text)
    (gives : List.Forall₂ Gives (rows value) entries) :
    ¬ AreBent value ∧ ¬ HasInfiniteIdentifier name value := by
  constructor
  · rintro ⟨-, row, member, entry, bent⟩
    obtain ⟨other, _, given⟩ := exists_of_forall₂ gives.flip member
    exact bent.not_gives other given
  · intro infinite
    obtain ⟨row, member, givesNone⟩ := exists_giving_none infinite
    obtain ⟨other, _, given⟩ := exists_of_forall₂ gives.flip member
    exact givesNone other given

/-- Rows are taken over faithfully exactly if they are not accepted with bent ones among them and do
not stop at an infinite identifier. -/
theorem isFaithful_ofJson_iff (name : Text) (value : Json) :
    IsFaithful name value (ofJson name value) ↔
      ¬ AreBent value ∧ ¬ HasInfiniteIdentifier name value := by
  constructor
  · intro faithful
    constructor
    · intro bent
      obtain ⟨enumeration, accepts⟩ := exists_ofJson_of_areBent name bent
      obtain ⟨_, row, member, entry, bentRow⟩ := bent
      obtain ⟨cause, fails⟩ := faithful.refused ⟨row, member, bentRow.not_gives⟩
      rw [accepts] at fails
      cases fails
    · intro infinite
      obtain ⟨cause, fails⟩ := faithful.refused (exists_giving_none infinite)
      rw [ofJson_of_hasInfiniteIdentifier infinite] at fails
      cases fails
  · rintro ⟨unbent, finite⟩
    have accepted : ∀ enumeration, ofJson name value = .ok enumeration →
        enumeration.name = name ∧ List.Forall₂ Gives (rows value) enumeration.values := by
      intro enumeration accepts
      obtain ⟨-, named, taken⟩ := ofJson_eq_ok_iff.mp accepts
      exact ⟨named, (forall₂_gives_or_areBent taken).resolve_right unbent⟩
    refine ⟨accepted, ?_⟩
    rintro ⟨row, member, givesNone⟩
    cases outcome : ofJson name value with
    | ok enumeration =>
      obtain ⟨entry, _, gives⟩ := exists_of_forall₂ (accepted enumeration outcome).2.flip member
      exact absurd gives (givesNone entry)
    | error failure =>
      rcases eq_malformed_of_ofJson outcome with ⟨cause, rfl⟩ | ⟨_, infinite⟩
      · exact ⟨cause, rfl⟩
      · exact absurd infinite finite

end Enumeration

/-! ### Queries -/

/-- A reply brings a value: it is a success, and all of its body arrives and holds the value, which
nests no deeper than a limit. -/
def Http.Reply.Brings (reply : Http.Reply) (limit : Nat) (value : Json) : Prop :=
  ∃ answer, reply = .ok answer ∧ answer.status.isSuccess = true ∧ answer.interruption = none ∧
    Json.readBody answer.body limit = .ok value

theorem Http.Reply.json_of_brings {reply : Http.Reply} {limit : Nat} {value : Json}
    (brings : reply.Brings limit value) (url shown : Text)
    (describe : Json.BodyDefect → Malformation) :
    reply.json limit url shown describe = .ok value := by
  obtain ⟨answer, rfl, successful, whole, reads⟩ := brings
  rw [json_accepted successful whole, reads]

namespace Source

open Enumeration (AreBent HasInfiniteIdentifier IsFaithful TakenAs rows rowsOf?)

/-- What a query that brings a value comes to. It takes the rows over faithfully exactly if they are
not accepted with bent ones among them and do not stop at an infinite identifier. It accepts just the
values that consist of rows which are taken as entries, it ends everything just at an infinite
identifier, and whatever else it refuses is malformed. -/
theorem rows_faithful_iff {σ : Type} (source : Source σ) (converter : Converter σ) (name : Text)
    (session : Http.Session σ) {value : Json}
    (brings : (Exchanges.send source converter (.enumeration name) session).1.Brings
      source.limits.rows value) :
    let outcome := ((source.queryEnumeration name).perform session).1
    (IsFaithful name value outcome ↔ ¬ AreBent value ∧ ¬ HasInfiniteIdentifier name value) ∧
      (∀ enumeration, outcome = .ok enumeration ↔
        (rowsOf? value).isSome = true ∧ enumeration.name = name ∧
          List.Forall₂ TakenAs (rows value) enumeration.values) ∧
      (outcome = .error .infiniteIdentifier ↔ HasInfiniteIdentifier name value) ∧
      ∀ failure, outcome = .error failure →
        failure = .infiniteIdentifier ∨ ∃ cause, failure = .malformed cause := by
  have outcome : ((source.queryEnumeration name).perform session).1 =
      Enumeration.ofJson name value := by
    rw [Exchanges.perform_queryEnumeration source converter]
    dsimp only
    rw [enumerationIn, Http.Reply.json_of_brings brings]
    rfl
  dsimp only
  rw [outcome]
  refine ⟨Enumeration.isFaithful_ofJson_iff name value, ?accepts, ?infinite, ?refuses⟩
  case accepts => exact fun _ => Enumeration.ofJson_eq_ok_iff
  case infinite =>
    refine ⟨fun fails => ?_, Enumeration.ofJson_of_hasInfiniteIdentifier⟩
    rcases Enumeration.eq_malformed_of_ofJson fails with ⟨_, other⟩ | ⟨_, infinite⟩
    · cases other
    · exact infinite
  case refuses =>
    intro failure fails
    rcases Enumeration.eq_malformed_of_ofJson fails with malformed | ⟨same, _⟩
    · exact Or.inr malformed
    · exact Or.inl same

/-- A service that answers everything with one body. -/
def answering (body : String) : Source Unit where
  connection := { productionUrl := "http://host/services", developmentUrl := "http://host/dev" }
  environment := .production
  remote := fun _ state => (.ok (.success body), state)

/-- A converter that answers with nothing. -/
def silentConverter : Converter Unit where
  url := "http://host/convert"
  remote := fun _ state => (.ok (.success ""), state)

theorem brings_answering {body : String} {value : Json} (name : Text)
    (reads : Json.readBody (Http.Answer.success body).body = .ok value) :
    (Exchanges.send (answering body) silentConverter (.enumeration name)
      { remote := () }).1.Brings Json.maximalDepth value :=
  ⟨.success body, rfl, rfl, rfl, reads⟩

/-- A row of an enumeration. -/
def rowOf (identifier description : Json) : Json :=
  .object [("enumId", identifier), ("description", description)]

/-- Rows with an integer, a numeral and a number without a fraction. -/
def bedRows : Json :=
  .array [rowOf (.integer 1) (.string "Single"), rowOf (.string "02") (.string "Double"),
    rowOf (.double (.finite false 6755399441055744 (-51))) (.string "Shared")]

/-- Such rows are taken over faithfully. -/
theorem rows_faithful_iff_beds :
    let body := "[\x7b\"enumId\": 1, \"description\": \"Single\"\x7d, " ++
      "\x7b\"enumId\": \"02\", \"description\": \"Double\"\x7d, " ++
      "\x7b\"enumId\": 3.0, \"description\": \"Shared\"\x7d]"
    (Exchanges.send (answering body) silentConverter (.enumeration "BedEnum")
        { remote := () }).1.Brings Json.maximalDepth bedRows ∧
      (((answering body).queryEnumeration "BedEnum").perform { remote := () }).1 =
        .ok { name := "BedEnum", values := [(1, "Single"), (2, "Double"), (3, "Shared")] } ∧
      IsFaithful "BedEnum" bedRows
        (((answering body).queryEnumeration "BedEnum").perform { remote := () }).1 := by
  intro body
  have reads : Json.readBody (Http.Answer.success body).body = .ok bedRows := by decide +kernel
  have two : Numeral.read "02" = .ok 2 := by decide +kernel
  have three : (Double.finite false 6755399441055744 (-51)).rational? = some ((3 : Int) : ℚ) := by
    norm_num [Double.rational?, Numeral.signed]
  have gives : List.Forall₂ Enumeration.Gives (rows bedRows)
      [(1, "Single"), (2, "Double"), (3, "Shared")] :=
    .cons (.intro rfl (.integer 1) rfl) <|
      .cons (.intro rfl (.numeral (Numeral.denotes_of_read two)) rfl) <|
        .cons (.intro rfl (.number three) rfl) .nil
  have brings := brings_answering "BedEnum" reads
  obtain ⟨faithful, accepts, -⟩ := rows_faithful_iff (answering body) silentConverter "BedEnum"
    { remote := () } brings
  refine ⟨brings, (accepts _).mpr ⟨rfl, rfl, gives.imp fun _ _ => Or.inl⟩, ?_⟩
  exact faithful.mpr (Enumeration.not_areBent_of_forall₂ "BedEnum" gives)

/-- A number with a fraction loses it, and what is no text becomes one: the entry of such a row is one
that it does not give, and the row is not refused. -/
theorem halfBed_bent :
    let body := "[\x7b\"enumId\": 1.5, \"description\": null\x7d]"
    let value : Json := .array [rowOf (.double (.finite false 6755399441055744 (-52))) .null]
    (Exchanges.send (answering body) silentConverter (.enumeration "BedEnum")
        { remote := () }).1.Brings Json.maximalDepth value ∧
      (((answering body).queryEnumeration "BedEnum").perform { remote := () }).1 =
        .ok { name := "BedEnum", values := [(1, "None")] } ∧
      ¬ IsFaithful "BedEnum" value
        (((answering body).queryEnumeration "BedEnum").perform { remote := () }).1 := by
  intro body value
  have reads : Json.readBody (Http.Answer.success body).body = .ok value := by decide +kernel
  have accepts : (((answering body).queryEnumeration "BedEnum").perform { remote := () }).1 =
      .ok { name := "BedEnum", values := [(1, "None")] } := by decide +kernel
  refine ⟨brings_answering "BedEnum" reads, accepts, fun faithful => ?_⟩
  obtain ⟨-, gives⟩ := faithful.accepted _ accepts
  cases gives with
  | cons first _ =>
    cases first with
    | intro identified denotes described => cases described

end Source

end ApiDoc
