/-
This file reads integers that are written in the decimal digits of any script. Single underscores
may stand between digits, a sign before them and spaces around all. A numeral of more than 4300
digits is refused.
-/
import ApiDoc.Text.Blank
import ApiDoc.Text.Digit
import ApiDoc.Text.Search

namespace ApiDoc

/-- The largest number of digits of an integer that is read. -/
def maximalDigits : Nat := 4300

/-- The number that a row of digits denotes. -/
def valueOfDigits (digits : List Nat) : Nat := digits.foldl (fun value digit => value * 10 + digit) 0

namespace Numeral

/-- Why a text is no integer that can be read. -/
inductive Defect where
  | notNumeral
  | tooLong
  deriving DecidableEq, Repr

/-- A space around a numeral: a blank that is no information separator. -/
def isSpace (point : CodePoint) : Bool :=
  point.isBlank && !(0x1C ≤ point.value && point.value ≤ 0x1F)

/-- The text without the spaces at its start. -/
def skipSpaces (text : Text) : Text := text.dropWhile isSpace

/-- The sign of a numeral, negative if true, and what follows it. -/
def takeSign : Text → Bool × Text
  | .char '-' :: rest => (true, rest)
  | .char '+' :: rest => (false, rest)
  | text => (false, text)

/-- A digit or an underscore. -/
def isRunPoint (point : CodePoint) : Bool := point.digit?.isSome || point == .char '_'

/-- The digits of a row in which single underscores may stand between digits. -/
def runDigits? (run : Text) : Option (List Nat) := do
  let groups ← (run.splitAtMark (.char '_')).mapM fun group =>
    if group.isEmpty then none else group.mapM CodePoint.digit?
  return groups.flatten

/-- The integer with a given sign and magnitude. -/
def signed (negative : Bool) (magnitude : Nat) : Int :=
  if negative then -(magnitude : Int) else magnitude

/-- The integer that a text denotes. The digits are counted before what follows them is looked at. -/
def read (text : Text) : Except Defect Int :=
  let (negative, body) := takeSign (skipSpaces text)
  match runDigits? (body.takeWhile isRunPoint) with
  | none => .error .notNumeral
  | some digits =>
    if maximalDigits < digits.length then .error .tooLong
    else if (skipSpaces (body.dropWhile isRunPoint)).isEmpty then
      .ok (signed negative (valueOfDigits digits))
    else .error .notNumeral

end Numeral

end ApiDoc
