/-
This file defines what is done with a cache call by call, and a record of what the calls ask. A call
resolves a name, or it lists the values of a column in a property, which resolves a name only if the
column draws from an enumeration and the property lists none.
-/
import ApiDoc.Enumeration.Apply

namespace ApiDoc

variable {σ : Type}

/-- A name that a source was asked for, with its answer. -/
structure Fetch where
  name : Text
  answer : Except Failure Enumeration

namespace Fetch

/-- The enumeration that was had under its name, if it could be had. -/
def gained? (fetch : Fetch) : Option (Text × Enumeration) :=
  match fetch.answer with
  | .ok definition => some (fetch.name, definition)
  | .error _ => none

/-- The source had the enumeration. -/
def succeeds (fetch : Fetch) : Bool := fetch.gained?.isSome

end Fetch

/-- The state of a source beside all that it was asked for, in order. -/
structure Recorded (σ : Type) where
  rest : σ
  fetches : List Fetch

/-- The source with a record of what it is asked for. -/
def EnumSource.recorded (source : EnumSource σ) : EnumSource (Recorded σ) :=
  fun name => .ofFunction fun state =>
    let (answer, rest) := (source name).perform state.rest
    (answer, { rest, fetches := state.fetches ++ [{ name, answer }] })

/-- The state without the record. -/
def Cached.forget (state : Cached (Recorded σ)) : Cached σ :=
  { cache := state.cache, rest := state.rest.rest }

namespace EnumCache

/-- What can be done with a cache. -/
inductive Call where
  | resolve (name : Text)
  | enumerate (column : Text) (property : Property)

namespace Call

/-- The name that the call resolves, if it resolves one. -/
def name? : Call → Option Text
  | resolve name => some name
  | enumerate column property => property.wanted? column

/-- What the call leaves behind, whether it fails or not. -/
def perform (source : EnumSource σ) (state : Cached σ) : Call → Cached σ
  | resolve name => ((EnumCache.resolve source name).perform state).2
  | enumerate column property => (property.enumerate source column state).2.2

/-- What calls leave behind, one after the other. -/
def performAll (source : EnumSource σ) (state : Cached σ) (calls : List Call) : Cached σ :=
  calls.foldl (perform source) state

end Call

end EnumCache

end ApiDoc
