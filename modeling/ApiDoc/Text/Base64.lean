/-
This file writes bytes with sixty-four signs, four for every three bytes, and reads them back. Reading
passes over what is no sign and stops at the padding that completes a group.
-/
import ApiDoc.Text.Utf8

namespace ApiDoc.Base64

/-- The signs in order of their values. -/
def signs : List Char :=
  "ABCDEFGHIJKLMNOPQRSTUVWXYZabcdefghijklmnopqrstuvwxyz0123456789+/".toList

/-- The sign of a value below sixty-four. -/
def sign (value : Nat) : CodePoint := .char (signs[value]?.getD '=')

/-- The value of a sign. -/
def value? (point : CodePoint) : Option Nat :=
  point.toChar?.bind fun character => signs.findIdx? (· = character)

/-- The sign that completes the last group. -/
def padding : CodePoint := .char '='

/-- The text of bytes. -/
def encode : Bytes → Text
  | [] => []
  | [first] =>
    [sign (first.toNat / 4), sign (first.toNat % 4 * 16), padding, padding]
  | [first, second] =>
    [sign (first.toNat / 4), sign (first.toNat % 4 * 16 + second.toNat / 16),
      sign (second.toNat % 16 * 4), padding]
  | first :: second :: third :: rest =>
    sign (first.toNat / 4) :: sign (first.toNat % 4 * 16 + second.toNat / 16)
      :: sign (second.toNat % 16 * 4 + third.toNat / 64) :: sign (third.toNat % 64)
      :: encode rest

/-- Where reading stands within a group: how many signs of it were read, the bits of the last one that
belong to a byte still to come, and the padding since then. -/
structure Group where
  read : Nat := 0
  bits : Nat := 0
  pads : Nat := 0

namespace Group

/-- The group after one more sign, and the byte that it completes. -/
def next (group : Group) (value : Nat) : List UInt8 × Group :=
  match group.read with
  | 0 => ([], { read := 1, bits := value })
  | 1 => ([(group.bits * 4 + value / 16).toUInt8], { read := 2, bits := value % 16 })
  | 2 => ([(group.bits * 16 + value / 4).toUInt8], { read := 3, bits := value % 4 })
  | _ => ([(group.bits * 64 + value).toUInt8], {})

end Group

/-- The bytes of the rest of a text, if it ends with a complete group. -/
def decodeFrom? (group : Group) : Text → Option Bytes
  | [] => if group.read = 0 then some [] else none
  | point :: rest =>
    if point = padding then
      if group.read < 2 then decodeFrom? group rest
      else if 4 ≤ group.read + group.pads + 1 then some []
      else decodeFrom? { group with pads := group.pads + 1 } rest
    else match value? point with
      | none => decodeFrom? group rest
      | some value =>
        let (bytes, group) := group.next value
        (decodeFrom? group rest).map (bytes ++ ·)

/-- The bytes that a text of ASCII characters stands for. -/
def decode? (text : Text) : Option Bytes :=
  if text.isAscii then decodeFrom? {} text else none

end ApiDoc.Base64
