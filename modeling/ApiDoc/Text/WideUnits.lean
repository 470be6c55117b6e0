/-
This file decodes texts whose code units are wider than a byte: UTF-16, where two units may make one
character and a unit without its partner stays a surrogate, and UTF-32.
-/
import ApiDoc.Text.Utf8

namespace ApiDoc

/-- The order of the bytes within a unit. -/
inductive ByteOrder where
  | bigEndian
  | littleEndian
  deriving DecidableEq, Repr

namespace Utf16

/-- The units that the bytes make up, if none is cut short. -/
def units? (order : ByteOrder) : Bytes → Option (List Nat)
  | [] => some []
  | [_] => none
  | first :: second :: rest =>
    let unit := match order with
      | .bigEndian => first.toNat * 0x100 + second.toNat
      | .littleEndian => second.toNat * 0x100 + first.toNat
    (units? order rest).map (unit :: ·)

/-- A unit that opens a pair. -/
def isHigh (unit : Nat) : Bool := 0xD800 ≤ unit && unit < 0xDC00

/-- A unit that completes a pair. -/
def isLow (unit : Nat) : Bool := 0xDC00 ≤ unit && unit < 0xE000

/-- The character of a pair of units. -/
def joinPair (high low : Nat) : CodePoint :=
  .char (Char.ofNat (0x10000 + (high - 0xD800) * 0x400 + (low - 0xDC00)))

/-- The text of units; `pending` is an opening unit that still waits for its partner. -/
def joinUnits (pending : Option Nat) : List Nat → Option Text
  | [] => match pending with
    | none => some []
    | some high => (CodePoint.ofValue? high).map ([·])
  | unit :: rest => match pending with
    | some high =>
      if isLow unit then (joinUnits none rest).map (joinPair high unit :: ·)
      else do
        let first ← CodePoint.ofValue? high
        if isHigh unit then return first :: (← joinUnits (some unit) rest)
        else return first :: (← CodePoint.ofValue? unit) :: (← joinUnits none rest)
    | none =>
      if isHigh unit then joinUnits (some unit) rest
      else do return (← CodePoint.ofValue? unit) :: (← joinUnits none rest)

/-- The text that the bytes encode. -/
def decode? (order : ByteOrder) (bytes : Bytes) : Option Text :=
  (units? order bytes).bind (joinUnits none)

end Utf16

namespace Utf32

/-- The text that the bytes encode. -/
def decode? (order : ByteOrder) : Bytes → Option Text
  | [] => some []
  | first :: second :: third :: fourth :: rest => do
    let value := match order with
      | .bigEndian =>
        ((first.toNat * 0x100 + second.toNat) * 0x100 + third.toNat) * 0x100 + fourth.toNat
      | .littleEndian =>
        ((fourth.toNat * 0x100 + third.toNat) * 0x100 + second.toNat) * 0x100 + first.toNat
    return (← CodePoint.ofValue? value) :: (← decode? order rest)
  | _ => none

end Utf32

end ApiDoc
