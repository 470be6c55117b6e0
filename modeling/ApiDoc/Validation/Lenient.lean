/-
This file reads typed values from JSON leniently: a boolean may be written as a number or a word, an
integer as a numeral or as a double without a fraction. Strings, lists and dictionaries are taken as
they are.
-/
import ApiDoc.Validation.Issue
import ApiDoc.Number.Numeral

namespace ApiDoc

namespace Lenient

/-! ### Words and numerals -/

/-- The words for true and for false. -/
def booleanWords : List (Text × Bool) :=
  [("0", false), ("off", false), ("f", false), ("false", false), ("n", false), ("no", false),
    ("1", true), ("on", true), ("t", true), ("true", true), ("y", true), ("yes", true)]

/-- The boolean that a word stands for, in any case. -/
def booleanOfWord? (word : Text) : Option Bool := Dict.get? booleanWords word.asciiLowercase

/-- The digits of a row of ASCII digits in which single underscores may stand between digits. -/
def asciiDigits? (run : Text) : Option (List Nat) := do
  let groups ← (run.splitAtMark (.char '_')).mapM fun group =>
    if group.isEmpty then none else group.mapM CodePoint.asciiDigit?
  return groups.flatten

/-- The integer that a numeral stands for. Spaces may surround it and zeros may follow a point. -/
def integerOfNumeral? (numeral : Text) : Option Int := do
  let trimmed := ((numeral.dropWhile Numeral.isSpace).reverse.dropWhile Numeral.isSpace).reverse
  let (negative, body) := Numeral.takeSign trimmed
  let (whole, places) := (body.cutFirst? (.char '.')).getD (body, [])
  if places.any (· ≠ .char '0') then none
  else return Numeral.signed negative (valueOfDigits (← asciiDigits? whole))

/-! ### Values -/

/-- An integer that fits a machine word of 64 bits with a sign. -/
def isWord (value : Int) : Bool := -0x8000000000000000 ≤ value && value < 0x8000000000000000

/-- The boolean that a number stands for, by its integer value if it has one. -/
def booleanOfNumber (value? : Option Int) : Validated Bool :=
  match value? with
  | none => .issue .notBoolean
  | some value =>
    if value = 0 then .valid false
    else if value = 1 then .valid true
    else if isWord value then .issue .unreadableBoolean
    else .issue .notBoolean

/-- A boolean, a number that is zero or one, or a word for a boolean. -/
def boolean : Json → Validated Bool
  | .bool value => .valid value
  | .string word => match booleanOfWord? word with
    | some value => .valid value
    | none => .issue .unreadableBoolean
  | .integer value => booleanOfNumber (some value)
  | .double value => booleanOfNumber value.toInt?
  | .null | .array _ | .object _ => .issue .notBoolean

/-- An integer, a boolean as zero or one, a double without a fraction, or a numeral. -/
def integer : Json → Validated Int
  | .integer value => .valid value
  | .bool value => .valid (if value then 1 else 0)
  | .double value => match value.toInt? with
    | some value => .valid value
    | none => .issue (if value.isFinite then .fractionalInteger else .infiniteInteger)
  | .string numeral => match integerOfNumeral? numeral with
    | some value => .valid value
    | none => .issue .unreadableInteger
  | .null | .array _ | .object _ => .issue .notInteger

/-- A string. -/
def string : Json → Validated Text
  | .string value => .valid value
  | _ => .issue .notString

/-- Any value. -/
def any (value : Json) : Validated Json := .valid value

/-- Null or a value of a kind. -/
def optional {α : Type} (read : Json → Validated α) : Json → Validated (Option α)
  | .null => .valid none
  | value => some <$> read value

/-- The items of a list, each of one kind, from a position on. -/
def itemsFrom {α : Type} (read : Json → Validated α) : Nat → List Json → Validated (List α)
  | _, [] => .valid []
  | position, item :: rest =>
    List.cons <$> (read item).within (.index position) <*> itemsFrom read (position + 1) rest

/-- A list with items of one kind. -/
def list {α : Type} (read : Json → Validated α) : Json → Validated (List α)
  | .array items => itemsFrom read 0 items
  | _ => .issue .notList

/-- The entries of a dictionary, each value of one kind. -/
def entries {α : Type} (read : Json → Validated α) : List (Text × Json) → Validated (Dict α)
  | [] => .valid []
  | (key, value) :: rest =>
    (fun value rest => (key, value) :: rest) <$> (read value).within (.key key)
      <*> entries read rest

/-- A dictionary with values of one kind. -/
def dictionary {α : Type} (read : Json → Validated α) : Json → Validated (Dict α)
  | .object members => entries read members
  | _ => .issue .notDictionary

/-- A dictionary of any values. -/
def plainDictionary : Json → Validated (Dict Json)
  | .object members => .valid members
  | _ => .issue .notDictionary

end Lenient

end ApiDoc
