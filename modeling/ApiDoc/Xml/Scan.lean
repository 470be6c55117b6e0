/-
This file defines scanners. A scanner takes an item off the front of the characters that have arrived
so far. It may find that more have to arrive before the item is complete, or that whatever arrives
there is no such item; what it has found stays found when more arrive.
-/
import ApiDoc.Xml.NameCharacter

namespace ApiDoc.Xml

/-- What a scanner makes of the characters that have arrived. -/
inductive Scan (α : Type) where
  | found (item : α) (rest : List Char)
  | unfinished
  | malformed
  deriving DecidableEq, Repr

/-- What one round has found, where rounds go on until one is the last. -/
inductive Round (α β : Type) where
  | item (value : α)
  | last (value : β)
  deriving DecidableEq, Repr

/-- A scanner of items. -/
def Scanner (α : Type) := List Char → Scan α

namespace Scanner

variable {α β : Type}

/-- Finds an item without taking anything. -/
def yielding (item : α) : Scanner α := fun text => .found item text

/-- Scans what depends on an item after the item. -/
def followedBy (scanner : Scanner α) (next : α → Scanner β) : Scanner β := fun text =>
  match scanner text with
  | .found item rest => next item rest
  | .unfinished => .unfinished
  | .malformed => .malformed

instance : Monad Scanner where
  pure := yielding
  bind := followedBy

/-- Accepts nothing. -/
def reject : Scanner α := fun _ => .malformed

/-- Finds the item if there is one. -/
def accept? (item? : Option α) : Scanner α :=
  match item? with
  | some item => yielding item
  | none => reject

/-- Takes the next character. -/
def next : Scanner Char
  | [] => .unfinished
  | character :: rest => .found character rest

/-- Looks at the next character. -/
def peek : Scanner Char
  | [] => .unfinished
  | character :: rest => .found character (character :: rest)

/-- Takes one certain character. -/
def expect (wanted : Char) : Scanner Unit := do
  if (← next) = wanted then return () else reject

/-- Takes certain characters in a row. -/
def expectAll : List Char → Scanner Unit
  | [] => yielding ()
  | wanted :: rest => do
    expect wanted
    expectAll rest

/-- Takes a number of characters. -/
def take : Nat → Scanner (List Char)
  | 0 => yielding []
  | count + 1 => do
    let first ← next
    let rest ← take count
    return first :: rest

/-- Takes certain characters in a row, of which none is judged before all of them have arrived. -/
def expectTogether (wanted : List Char) : Scanner Unit := do
  if (← take wanted.length) = wanted then return () else reject

/-- Takes characters of a class until another one stands there. -/
def run (accepts : Char → Bool) : List Char → Scan (List Char)
  | [] => .unfinished
  | character :: rest =>
    if accepts character then match run accepts rest with
      | .found characters rest => .found (character :: characters) rest
      | .unfinished => .unfinished
      | .malformed => .malformed
    else .found [] (character :: rest)

/-- Takes the characters of a class, in a row. -/
def takeWhile (accepts : Char → Bool) : Scanner (List Char) := run accepts

/-- Takes the white space there is. -/
def skipSpaces : Scanner Unit := do
  let _ ← takeWhile isSpace
  return ()

/-- Takes items round after round up to the last round, in no more rounds than `limit` has marks. -/
def roundsUpTo (round : Scanner (Round α β)) : (limit : List Char) → Scanner (List α × β)
  | [] => reject
  | _ :: limit => do
    match ← round with
    | .last value => return ([], value)
    | .item value =>
      let (others, last) ← roundsUpTo round limit
      return (value :: others, last)

/-- Takes items round after round up to the last round. Every item takes a character at least, so the
text itself has marks enough but for the last round. -/
def rounds (round : Scanner (Round α β)) : Scanner (List α × β) :=
  fun text => roundsUpTo round (' ' :: text) text

/-- Takes a name, in which no colon stands. -/
def name : Scanner (List Char) := do
  let first ← next
  if isNameStart first then return first :: (← takeWhile isNameCharacter) else reject

/-- Takes a name that may have a namespace: one name, or two with a colon between them. -/
def qualifiedName : Scanner (List Char) := do
  let first ← name
  if (← peek) = ':' then
    expect ':'
    return first ++ ':' :: (← name)
  else return first

end Scanner

end ApiDoc.Xml
