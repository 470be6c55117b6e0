/-
This file defines dictionaries: entries under text keys, kept in the order in which their keys first
came. Setting a key that is already there replaces its value in place.
-/
import ApiDoc.Text.Basic

namespace ApiDoc

/-- A dictionary is its entries, in order of first insertion. -/
abbrev Dict (α : Type) := List (Text × α)

namespace Dict

variable {α β : Type}

/-- The keys in order. -/
def keys (dict : Dict α) : List Text := dict.map (·.1)

/-- The value under a key. -/
def get? : Dict α → Text → Option α
  | [], _ => none
  | (key, value) :: rest, wanted => if key = wanted then some value else get? rest wanted

/-- The key has an entry. -/
def hasKey (dict : Dict α) (wanted : Text) : Bool := dict.any fun (key, _) => key = wanted

/-- The value goes under the key: in its place if the key is there, else at the end. -/
def insert : Dict α → Text → α → Dict α
  | [], key, value => [(key, value)]
  | (first, old) :: rest, key, value =>
    if first = key then (first, value) :: rest else (first, old) :: insert rest key value

/-- The value goes at the end under the key unless the key is there. -/
def insertIfNew (dict : Dict α) (key : Text) (value : α) : Dict α :=
  if dict.hasKey key then dict else dict ++ [(key, value)]

/-- The dictionary that arises from inserting the entries one after the other. -/
def ofEntries (entries : List (Text × α)) : Dict α :=
  entries.foldl (fun dict (key, value) => dict.insert key value) []

/-- The dictionary with the entries of its parts, which have no key in common, one part after the
other. -/
def ofParts (parts : List (Dict α)) : Dict α := parts.flatten

/-- A part with one entry, or with none if there is no value. -/
def optionalPart (key : Text) (write : α → β) : Option α → Dict β
  | none => []
  | some value => [(key, write value)]

/-- The dictionary without the entries under the given keys. -/
def without (dict : Dict α) (dropped : List Text) : Dict α :=
  dict.filter fun (key, _) => !dropped.contains key

/-- The same keys with every value changed by a function of key and value. -/
def mapEntries (change : Text → α → β) (dict : Dict α) : Dict β :=
  dict.map fun (key, value) => (key, change key value)

/-- The entries in ascending order of their keys. -/
def sorted (dict : Dict α) : Dict α :=
  dict.mergeSort fun first second => first.1.le second.1

end Dict

end ApiDoc
