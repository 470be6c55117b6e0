/-
This file defines enumerations and the cache of a run. The cache asks its source for an enumeration
once; an enumeration that could not be had is not kept, so it is asked for again.
-/
import ApiDoc.Attempt
import ApiDoc.Dict

namespace ApiDoc

/-- An enumeration: its identifiers and labels in order. -/
structure Enumeration where
  name : Text
  values : List (Int × Text)
  deriving DecidableEq, Repr

/-- The enumerations that a run has, and how often it asked for one. -/
structure EnumCache where
  definitions : Dict Enumeration := []
  lookups : Nat := 0
  deriving DecidableEq, Repr

/-- Where enumerations come from: a source with a state of its own that may fail. -/
abbrev EnumSource (σ : Type) := Text → Attempt σ Enumeration

/-- The cache of a run beside the state of what the run asks. -/
structure Cached (σ : Type) where
  cache : EnumCache
  rest : σ
  deriving Repr

namespace Cached

variable {σ α : Type}

/-- Work beside the cache, which it leaves as it is. -/
def beside (work : StateM σ α) : StateM (Cached σ) α := fun state =>
  let (value, rest) := work state.rest
  (value, { state with rest })

/-- Work with a cache of its own, which is empty at first and given up at the end. -/
def fresh (work : Attempt (Cached σ) α) : Attempt σ α := .ofFunction fun rest =>
  let (outcome, state) := work.perform { cache := {}, rest }
  (outcome, state.rest)

end Cached

namespace EnumCache

/-- The number of enumerations in the cache. -/
def size (cache : EnumCache) : Nat := cache.definitions.length

/-- The cache has an enumeration of this name. -/
def has (cache : EnumCache) (name : Text) : Bool := cache.definitions.hasKey name

/-- The cache after an answer to a question that it asked. -/
def afterAnswer (cache : EnumCache) (name : Text) : Except Failure Enumeration → EnumCache
  | .ok definition =>
    { definitions := cache.definitions.insert name definition, lookups := cache.lookups + 1 }
  | .error _ => { cache with lookups := cache.lookups + 1 }

/-- The enumeration of a name, from the cache or else from the source. -/
def resolve {σ : Type} (source : EnumSource σ) (name : Text) : Attempt (Cached σ) Enumeration :=
  .ofFunction fun state =>
    match state.cache.definitions.get? name with
    | some definition => (.ok definition, state)
    | none =>
      let (answer, rest) := (source name).perform state.rest
      (answer, { cache := state.cache.afterAnswer name answer, rest })

/-- An enumeration that the cache has is not asked for. -/
theorem perform_resolve_of_some {σ : Type} (source : EnumSource σ) {name : Text}
    {definition : Enumeration} {state : Cached σ}
    (found : state.cache.definitions.get? name = some definition) :
    (resolve source name).perform state = (.ok definition, state) := by
  show (match state.cache.definitions.get? name with | some _ => _ | none => _) = _
  rw [found]

/-- Any other is asked for, and kept if it could be had. -/
theorem perform_resolve_of_none {σ : Type} (source : EnumSource σ) {name : Text}
    {state : Cached σ} (missing : state.cache.definitions.get? name = none) :
    (resolve source name).perform state =
      (((source name).perform state.rest).1,
        { cache := state.cache.afterAnswer name ((source name).perform state.rest).1
          rest := ((source name).perform state.rest).2 }) := by
  show (match state.cache.definitions.get? name with | some _ => _ | none => _) = _
  rw [missing]

end EnumCache

end ApiDoc
