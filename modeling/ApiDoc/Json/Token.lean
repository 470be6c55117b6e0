/-
This file cuts JSON text into tokens. The text is passed once from left to right, and what is no
token becomes a broken one, so that a reader meets the faults in the order of the text.
-/
import ApiDoc.Json.Basic
import ApiDoc.Text.Digit
import ApiDoc.Text.WideUnits
import ApiDoc.Number.Numeral

namespace ApiDoc.Json

/-- A token of JSON text. An integer keeps its digits, because how many they are decides whether it
can be read. -/
inductive Token where
  | openArray
  | closeArray
  | openObject
  | closeObject
  | comma
  | colon
  | word (value : Json)
  | integer (negative : Bool) (digits : List Nat)
  | double (value : Double)
  | string (value : Text)
  | broken
  deriving DecidableEq, Repr

namespace Token

/-! ### Numbers -/

/-- The digits at the start of a text, and what follows them. -/
def takeDigits : Text → List Nat × Text
  | [] => ([], [])
  | point :: rest => match point.asciiDigit? with
    | none => ([], point :: rest)
    | some digit => let (digits, after) := takeDigits rest; (digit :: digits, after)

/-- The integer part at the start of a text: a zero, or digits that do not start with one. -/
def takeWhole (text : Text) : List Nat × Text :=
  match takeDigits text with
  | (0 :: _, _) => ([0], text.drop 1)
  | taken => taken

/-- The digits after a point, if there are any. -/
def takeFraction : Text → Option (List Nat × Text)
  | .char '.' :: rest => match takeDigits rest with
    | ([], _) => none
    | taken => some taken
  | _ => none

/-- The exponent of ten after an `e`, if it has digits. -/
def takeExponent : Text → Option (Int × Text)
  | .char mark :: rest =>
    if mark = 'e' ∨ mark = 'E' then
      let (negative, body) := Numeral.takeSign rest
      match takeDigits body with
      | ([], _) => none
      | (digits, after) => some (Numeral.signed negative (valueOfDigits digits), after)
    else none
  | _ => none

/-- The longest number at the start of a text, and what follows it. A number with a fraction or an
exponent is a double. -/
def takeNumber (text : Text) : Option (Token × Text) :=
  let (negative, body) := match text with
    | .char '-' :: rest => (true, rest)
    | _ => (false, text)
  match takeWhole body with
  | ([], _) => none
  | (whole, afterWhole) =>
    let fraction := takeFraction afterWhole
    let (places, afterPlaces) := fraction.getD ([], afterWhole)
    match takeExponent afterPlaces with
    | some (power, after) =>
      let digits := whole ++ places
      some (.double (Double.nearestDecimal negative (valueOfDigits digits) digits.length
        (power - places.length)), after)
    | none =>
      if fraction.isNone then some (.integer negative whole, afterWhole)
      else
        let digits := whole ++ places
        some (.double (Double.nearestDecimal negative (valueOfDigits digits) digits.length
          (-places.length)), afterPlaces)

/-! ### The pass over the text -/

/-- The words that stand for a value. -/
def words : List (Text × Json) :=
  [("null", .null), ("true", .bool true), ("false", .bool false), ("NaN", .double .nan),
    ("Infinity", .double (.infinity false)), ("-Infinity", .double (.infinity true))]

/-- The tokens of a run of code points without spaces, quotes and punctuation: a word, or a number
and what is wrong after it. -/
def ofBare (run : Text) : List Token :=
  match Dict.get? words run with
  | some value => [.word value]
  | none => match takeNumber run with
    | some (token, []) => [token]
    | some (token, _ :: _) => [token, .broken]
    | none => [.broken]

/-- Where in a token the pass is. Code points read so far are in reverse order, and `high` is the
opening half of a surrogate pair that the last escape wrote. -/
inductive Place where
  | between
  | bare (read : Text)
  | string (read : Text) (high : Option (Fin 2048))
  | escape (read : Text) (high : Option (Fin 2048))
  | escapeDigits (read : Text) (high : Option (Fin 2048)) (count value : Nat)
  | lost
  deriving Repr

/-- What is read once an opening half has got no partner. -/
def settle (read : Text) : Option (Fin 2048) → Text
  | none => read
  | some high => .surrogate high :: read

/-- The place after an escape by number: two halves of a pair that follow each other join. -/
def afterEscapeDigits (read : Text) (high : Option (Fin 2048)) (value : Nat) : Place :=
  match CodePoint.ofValue? value with
  | none => .lost
  | some (.char character) => .string (.char character :: settle read high) none
  | some (.surrogate index) =>
    if index.val < 0x400 then .string (settle read high) (some index)
    else match high with
      | none => .string (.surrogate index :: read) none
      | some opening =>
        .string (Utf16.joinPair (0xD800 + opening.val) (0xD800 + index.val) :: read) none

/-- The code point that a one-letter escape stands for. -/
def escaped? : CodePoint → Option CodePoint
  | .char '"' => some (.char '"')
  | .char '\\' => some (.char '\\')
  | .char '/' => some (.char '/')
  | .char 'b' => some (.char '\x08')
  | .char 'f' => some (.char '\x0c')
  | .char 'n' => some (.char '\n')
  | .char 'r' => some (.char '\r')
  | .char 't' => some (.char '\t')
  | _ => none

/-- The punctuation token that a code point is. -/
def punctuation? : CodePoint → Option Token
  | .char '[' => some .openArray
  | .char ']' => some .closeArray
  | .char '\x7b' => some .openObject
  | .char '\x7d' => some .closeObject
  | .char ',' => some .comma
  | .char ':' => some .colon
  | _ => none

/-- The space between tokens. -/
def isSpace (point : CodePoint) : Bool :=
  point = .char ' ' || point = .char '\t' || point = .char '\n' || point = .char '\r'

/-- The tokens that a code point outside of strings completes on its own, and the place after it,
when `pending` is the bare run that it ends or extends. -/
def passOutside (pending : Text) (point : CodePoint) : List Token × Place :=
  let ended : List Token := if pending.isEmpty then [] else ofBare pending.reverse
  if isSpace point then (ended, .between)
  else if point = .char '"' then (ended, .string [] none)
  else match punctuation? point with
    | some token => (ended ++ [token], .between)
    | none => ([], .bare (point :: pending))

/-- The tokens that a code point completes, and the place after it. -/
def pass (place : Place) (point : CodePoint) : List Token × Place :=
  match place with
  | .between => passOutside [] point
  | .bare read => passOutside read point
  | .string read high =>
    if point = .char '"' then ([.string (settle read high).reverse], .between)
    else if point = .char '\\' then ([], .escape read high)
    else if point.value < 0x20 then ([.broken], .lost)
    else ([], .string (point :: settle read high) none)
  | .escape read high =>
    if point = .char 'u' then ([], .escapeDigits read high 0 0)
    else match escaped? point with
      | some written => ([], .string (written :: settle read high) none)
      | none => ([.broken], .lost)
  | .escapeDigits read high count value =>
    match point.hexDigit? with
    | none => ([.broken], .lost)
    | some digit =>
      let value := value * 0x10 + digit
      if count = 3 then ([], afterEscapeDigits read high value)
      else ([], .escapeDigits read high (count + 1) value)
  | .lost => ([], .lost)

/-- The tokens at the end of the text. -/
def finish : Place → List Token
  | .between | .lost => []
  | .bare read => ofBare read.reverse
  | .string .. | .escape .. | .escapeDigits .. => [.broken]

/-- The tokens of a text that is entered at a place. -/
def listFrom (place : Place) : Text → List Token
  | [] => finish place
  | point :: rest => let (tokens, next) := pass place point; tokens ++ listFrom next rest

/-- The tokens of a text. -/
def list (text : Text) : List Token := listFrom .between text

end Token

end ApiDoc.Json
