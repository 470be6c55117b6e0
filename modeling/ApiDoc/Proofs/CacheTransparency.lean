/-
This file proves that the cache of enumerations cannot be seen. Where the answers to questions for
enumerations depend on names alone, every cache that a run can have holds such answers and nothing
else. Work that looks at the cache only by resolving names has the same outcome from any two caches of
that kind and leaves one behind; tables are built by work of that kind, so whether they share a cache
does not matter.
-/
import ApiDoc.Enumeration.Known
import ApiDoc.Proofs.Dictionary
import ApiDoc.Proofs.InStep

namespace ApiDoc

variable {σ α : Type}

/-! ### Caches that hold answers -/

/-- The answers of a source depend on names alone. -/
def EnumSource.AnswersBy (source : EnumSource σ) (answer : Text → Except Failure Enumeration) :
    Prop :=
  ∀ name state, ((source name).perform state).1 = answer name

/-- Every enumeration in the cache is the answer to its name. -/
def EnumCache.Holds (answer : Text → Except Failure Enumeration) (cache : EnumCache) : Prop :=
  ∀ name definition, cache.definitions.get? name = some definition → answer name = .ok definition

namespace EnumCache

variable {answer : Text → Except Failure Enumeration}

theorem holds_empty : Holds answer {} := by
  intro name definition found
  cases found

/-- A cache that holds answers does so after one more. -/
theorem Holds.afterAnswer {cache : EnumCache} (holds : Holds answer cache) (name : Text) :
    Holds answer (cache.afterAnswer name (answer name)) := by
  cases answered : answer name with
  | error failure => exact holds
  | ok definition =>
    intro wanted found member
    by_cases same : wanted = name
    · subst same
      have inserted : (cache.definitions.insert wanted definition).get? wanted = some found := member
      rw [Dict.get?_insert_self, Option.some_inj] at inserted
      rw [answered, inserted]
    · refine holds wanted found ?_
      rw [← Dict.get?_insert_of_ne cache.definitions same definition]
      exact member

/-- Resolving a name yields the answer to it, from the cache or from the source. -/
theorem resolve_outcome {source : EnumSource σ} (answers : source.AnswersBy answer)
    {state : Cached σ} (holds : Holds answer state.cache) (name : Text) :
    ((resolve source name).perform state).1 = answer name := by
  cases found : state.cache.definitions.get? name with
  | some definition =>
    rw [perform_resolve_of_some source found]
    exact (holds name definition found).symm
  | none =>
    rw [perform_resolve_of_none source found]
    exact answers name state.rest

theorem holds_resolve {source : EnumSource σ} (answers : source.AnswersBy answer)
    {state : Cached σ} (holds : Holds answer state.cache) (name : Text) :
    Holds answer ((resolve source name).perform state).2.cache := by
  cases found : state.cache.definitions.get? name with
  | some definition =>
    rw [perform_resolve_of_some source found]
    exact holds
  | none =>
    rw [perform_resolve_of_none source found, answers name state.rest]
    exact holds.afterAnswer name

end EnumCache

/-! ### Transparent work -/

/-- Work is transparent if its outcome is the same from any two caches that hold answers, whatever
stands beside them, and if it leaves such a cache behind. -/
def Cached.Transparent (answer : Text → Except Failure Enumeration)
    (work : StateM (Cached σ) α) : Prop :=
  ∀ first second : Cached σ, first.cache.Holds answer → second.cache.Holds answer →
    (work first).1 = (work second).1 ∧ (work first).2.cache.Holds answer

namespace Cached

variable {answer : Text → Except Failure Enumeration}

/-- Both caches hold answers. -/
def BothHold (answer : Text → Except Failure Enumeration) (first second : Cached σ) : Prop :=
  first.cache.Holds answer ∧ second.cache.Holds answer

/-- Transparent work is what goes in step with itself from caches that hold answers. -/
theorem transparent_iff {work : StateM (Cached σ) α} :
    Transparent answer work ↔ InStep (BothHold answer) work work := by
  constructor
  · rintro transparent first second ⟨firstHolds, secondHolds⟩
    obtain ⟨same, firstAfter⟩ := transparent first second firstHolds secondHolds
    exact ⟨same, firstAfter, (transparent second first secondHolds firstHolds).2⟩
  · intro inStep first second firstHolds secondHolds
    obtain ⟨same, firstAfter, -⟩ := inStep first second ⟨firstHolds, secondHolds⟩
    exact ⟨same, firstAfter⟩

theorem transparent_resolve {source : EnumSource σ} (answers : source.AnswersBy answer)
    (name : Text) : Transparent answer (EnumCache.resolve source name).perform := by
  intro first second firstHolds secondHolds
  refine ⟨?_, EnumCache.holds_resolve answers firstHolds name⟩
  exact (EnumCache.resolve_outcome answers firstHolds name).trans
    (EnumCache.resolve_outcome answers secondHolds name).symm

end Cached

/-! ### Tables -/

namespace Table

open Cached (Transparent transparent_iff transparent_resolve)

variable {answer : Text → Except Failure Enumeration} {source : EnumSource σ}

theorem transparent_addColumn (answers : source.AnswersBy answer) (table : Table)
    (column : Column) : Transparent answer (addColumn source table column).perform :=
  transparent_iff.mpr <| inStep_addColumn
    (fun name => transparent_iff.mp (transparent_resolve answers name)) table column

theorem transparent_build (answers : source.AnswersBy answer) (name : Text)
    (columns : Feed Column) : Transparent answer (build source name columns).perform :=
  transparent_iff.mpr <| inStep_build
    (fun name => transparent_iff.mp (transparent_resolve answers name)) name columns

/-! ### Sequences of tables -/

/-- The tables of streams of columns, one after the other with the cache that is there, up to the
first that fails. -/
def buildEach (source : EnumSource σ) :
    List (Text × Feed Column) → StateM (Cached σ) (Feed Table)
  | [] => return .ofList []
  | (name, columns) :: rest => do
    match ← (build source name columns).run with
    | .error failure => return .failed failure
    | .ok table => return (← buildEach source rest).cons table

/-- The same with an empty cache for every table. -/
def buildEachAlone (source : EnumSource σ) :
    List (Text × Feed Column) → StateM σ (Feed Table)
  | [] => return .ofList []
  | (name, columns) :: rest => do
    match ← (Cached.fresh (build source name columns)).run with
    | .error failure => return .failed failure
    | .ok table => return (← buildEachAlone source rest).cons table

/-- What a cache and what stands beside it have become after names were resolved, whether each of
them could be had or not. -/
def afterResolving (source : EnumSource σ) (names : List Text) (state : Cached σ) : Cached σ :=
  names.foldl (fun state name => ((EnumCache.resolve source name).perform state).2) state

theorem holds_afterResolving (answers : source.AnswersBy answer) (names : List Text)
    {state : Cached σ} (holds : state.cache.Holds answer) :
    (afterResolving source names state).cache.Holds answer := by
  induction names generalizing state with
  | nil => exact holds
  | cons name rest inductionHypothesis =>
    exact inductionHypothesis (EnumCache.holds_resolve answers holds name)

/-- The first table decides whether the others are built at all, and on what. -/
theorem buildEach_cons (source : EnumSource σ) (name : Text) (columns : Feed Column)
    (rest : List (Text × Feed Column)) (state : Cached σ) :
    (buildEach source ((name, columns) :: rest) state).1 =
      match (build source name columns).perform state with
      | (.error failure, _) => .failed failure
      | (.ok table, after) => (buildEach source rest after).1.cons table := by
  rcases built : (build source name columns).perform state with ⟨outcome, after⟩
  have ran : (build source name columns).run state = (outcome, after) := built
  rw [buildEach]
  simp only [bind, StateT.bind, ran]
  cases outcome <;> rfl

theorem buildEachAlone_cons (source : EnumSource σ) (name : Text) (columns : Feed Column)
    (rest : List (Text × Feed Column)) (state : σ) :
    (buildEachAlone source ((name, columns) :: rest) state).1 =
      match (build source name columns).perform { cache := {}, rest := state } with
      | (.error failure, _) => .failed failure
      | (.ok table, after) => (buildEachAlone source rest after.rest).1.cons table := by
  rcases built : (build source name columns).perform { cache := {}, rest := state }
    with ⟨outcome, after⟩
  have ran : (Cached.fresh (build source name columns)).run state = (outcome, after.rest) := by
    show ((build source name columns).perform { cache := {}, rest := state }).map id (·.rest) = _
    rw [built]
    rfl
  rw [buildEachAlone]
  simp only [bind, StateT.bind, ran]
  cases outcome <;> rfl

/-- From a cache that holds answers, tables come out as they do one by one. -/
theorem buildEach_of_holds (answers : source.AnswersBy answer)
    (tables : List (Text × Feed Column)) {state : Cached σ}
    (holds : state.cache.Holds answer) (alone : σ) :
    (buildEach source tables state).1 = (buildEachAlone source tables alone).1 := by
  induction tables generalizing state alone with
  | nil => rfl
  | cons head rest inductionHypothesis =>
    obtain ⟨name, columns⟩ := head
    have transparent := transparent_build answers name columns state
      { cache := {}, rest := alone } holds EnumCache.holds_empty
    rw [buildEach_cons, buildEachAlone_cons]
    rcases built : (build source name columns).perform state with ⟨outcome, after⟩
    rcases builtAlone : (build source name columns).perform { cache := {}, rest := alone }
      with ⟨outcomeAlone, afterAlone⟩
    rw [built, builtAlone] at transparent
    obtain ⟨rfl, holdsAfter⟩ := transparent
    cases outcome with
    | error failure => rfl
    | ok table => exact congrArg (Feed.cons table) (inductionHypothesis holdsAfter afterAlone.rest)

/-- Tables that share a cache come out exactly as they do with a cache for each: the same schemas, or
the same first failure after the same tables. Names that were resolved before make no difference,
nor does what the source itself remembers. -/
theorem buildEach_eq_buildEachAlone (source : EnumSource σ)
    (answer : Text → Except Failure Enumeration) (answers : source.AnswersBy answer)
    (resolved : List Text) (tables : List (Text × Feed Column)) (shared alone : σ) :
    (buildEach source tables
        (afterResolving source resolved { cache := {}, rest := shared })).1 =
      (buildEachAlone source tables alone).1 :=
  buildEach_of_holds answers tables
    (holds_afterResolving answers resolved EnumCache.holds_empty) alone

/-- What a source answers that knows some enumerations and no others. -/
def knownAnswer (enumerations : Dict (List (Int × Text))) (name : Text) :
    Except Failure Enumeration :=
  match Dict.get? enumerations name with
  | some values => .ok { name, values }
  | none => .error (.malformed (.unknownEnumeration name))

theorem known_answersBy (enumerations : Dict (List (Int × Text))) :
    (EnumSource.known enumerations).AnswersBy (knownAnswer enumerations) :=
  fun _ _ => rfl

/-- Two tables draw from one enumeration and a third from one that is missing; both names were
resolved before. -/
theorem buildEach_eq_buildEachAlone_rooms :
    let enumerations : Dict (List (Int × Text)) := [("RoomEnum", [(1, "Single Room"), (2, "Suite")])]
    let tables : List (Text × Feed Column) :=
      [("Room", .ofList [{ name := "Kind_RoomEnum", attributes := [("allowNull", "true")] }]),
        ("Booking", .ofList [{ name := "Wish_RoomEnum", attributes := [("required", "true")] }]),
        ("Guest", .ofList [{ name := "GuestEnum", attributes := [] }])]
    (EnumSource.known enumerations).AnswersBy (knownAnswer enumerations) ∧
    (buildEach (EnumSource.known enumerations) tables
        (afterResolving (EnumSource.known enumerations) ["RoomEnum", "GuestEnum"]
          { cache := {}, rest := [] })).1 =
      (buildEachAlone (EnumSource.known enumerations) tables ["RoomEnum"]).1 :=
  ⟨known_answersBy _, buildEach_eq_buildEachAlone _ _ (known_answersBy _) _ _ _ _⟩

end Table

end ApiDoc
