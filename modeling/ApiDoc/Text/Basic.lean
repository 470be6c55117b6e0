/-
This file defines texts. A text is a list of code points, and a code point is either a character or
a surrogate that nothing completes: text read from escapes or from lenient encodings can hold the
latter. Such a text can be kept, searched, ordered and escaped like any other; only its encoding as
bytes fails.
-/

namespace ApiDoc

/-- A code point is a Unicode character or one of the 2048 surrogates. -/
inductive CodePoint where
  | char (character : Char)
  | surrogate (index : Fin 2048)
  deriving DecidableEq, Repr, Inhabited

namespace CodePoint

/-- The number that Unicode gives to a code point. -/
def value : CodePoint → Nat
  | .char character => character.toNat
  | .surrogate index => 0xD800 + index.val

/-- The code point with a given number, if there is one. -/
def ofValue? (value : Nat) : Option CodePoint :=
  if surrogate : 0xD800 ≤ value ∧ value < 0xE000 then
    some (.surrogate ⟨value - 0xD800, by omega⟩)
  else if value < 0x110000 then some (.char (Char.ofNat value))
  else none

/-- The character that a code point is, if it is no surrogate. -/
def toChar? : CodePoint → Option Char
  | .char character => some character
  | .surrogate _ => none

/-- ASCII is the first 128 characters. -/
def isAscii (point : CodePoint) : Bool := point.value < 0x80

end CodePoint

/-- A text is a list of code points. -/
abbrev Text := List CodePoint

namespace Text

/-- The text of a string: its characters in order. -/
def ofString (string : String) : Text := string.toList.map .char

instance : Coe String Text := ⟨ofString⟩

/-- The characters of a text, if it holds no surrogate. -/
def toChars? (text : Text) : Option (List Char) := text.mapM CodePoint.toChar?

/-- The string with the characters of a text; a surrogate is shown as the replacement character. -/
def display (text : Text) : String :=
  String.ofList (text.map fun point => point.toChar?.getD '\uFFFD')

/-- Texts are ordered by the numbers of their code points, a shorter text before its extensions. -/
def le : Text → Text → Bool
  | [], _ => true
  | _ :: _, [] => false
  | first :: rest, second :: others =>
    if first.value < second.value then true
    else if second.value < first.value then false
    else le rest others

/-- Every code point of the text is ASCII. -/
def isAscii (text : Text) : Bool := text.all CodePoint.isAscii

/-- The text in which the capitals of the ASCII script are small. -/
def asciiLowercase (text : Text) : Text :=
  text.map fun
    | .char character => .char character.toLower
    | .surrogate index => .surrogate index

/-- The digits of a natural number in base ten. -/
def ofNat (number : Nat) : Text := (Nat.toDigits 10 number).map .char

/-- The digits of an integer in base ten, after a minus sign if it is negative. -/
def ofInt : Int → Text
  | .ofNat number => ofNat number
  | .negSucc number => .char '-' :: ofNat (number + 1)

/-- The text made of pieces, one after the other. -/
def ofPieces (pieces : List Text) : Text := pieces.flatten

/-- The texts of a list with a separator between any two neighbours. -/
def join (separator : Text) : List Text → Text
  | [] => []
  | [last] => last
  | first :: rest => first ++ separator ++ join separator rest

end Text

end ApiDoc
