/-
This file proves that a cache agrees with the record of what was asked for, whatever is done with it
and whichever questions fail. A call asks for nothing but the name that it resolves, and only if the
cache lacks it; what is had stays as it is and is never asked for again, and what was not had leaves no
trace but the count of questions, so that it is asked for again.
-/
import ApiDoc.Enumeration.Call
import ApiDoc.Proofs.Dictionary

namespace ApiDoc

variable {σ : Type}

/-! ### The cache and the record -/

namespace Fetch

theorem gained?_eq_some_iff {fetch : Fetch} {name : Text} {definition : Enumeration} :
    fetch.gained? = some (name, definition) ↔ fetch = ⟨name, .ok definition⟩ := by
  obtain ⟨asked, answer⟩ := fetch
  unfold gained?
  cases answer <;> simp

theorem succeeds_iff {fetch : Fetch} :
    fetch.succeeds = true ↔ ∃ definition, fetch = ⟨fetch.name, .ok definition⟩ := by
  obtain ⟨asked, answer⟩ := fetch
  unfold succeeds gained?
  cases answer <;> simp

end Fetch

namespace EnumCache

/-- The cache agrees with the record of what was asked for. -/
structure Agrees (cache : EnumCache) (fetches : List Fetch) : Prop where
  lookups : cache.lookups = fetches.length
  definitions : cache.definitions = fetches.filterMap Fetch.gained?
  once : fetches.Pairwise fun earlier later => earlier.succeeds = true → later.name ≠ earlier.name

theorem agrees_empty : Agrees {} [] where
  lookups := rfl
  definitions := rfl
  once := .nil

namespace Agrees

variable {cache : EnumCache} {fetches : List Fetch}

/-- What is in the cache was had under its name. -/
theorem mem_definitions_iff (agrees : cache.Agrees fetches) {name : Text}
    {definition : Enumeration} :
    (name, definition) ∈ cache.definitions ↔ ⟨name, .ok definition⟩ ∈ fetches := by
  simp only [agrees.definitions, List.mem_filterMap, Fetch.gained?_eq_some_iff, exists_eq_right]

theorem mem_keys_iff (agrees : cache.Agrees fetches) (name : Text) :
    name ∈ cache.definitions.keys ↔
      ∃ fetch ∈ fetches, fetch.name = name ∧ fetch.succeeds = true := by
  constructor
  · intro known
    obtain ⟨⟨_, definition⟩, member, rfl⟩ := List.mem_map.mp known
    exact ⟨_, agrees.mem_definitions_iff.mp member, rfl, rfl⟩
  · rintro ⟨fetch, member, rfl, succeeded⟩
    obtain ⟨definition, same⟩ := Fetch.succeeds_iff.mp succeeded
    rw [same] at member
    exact List.mem_map.mpr ⟨_, agrees.mem_definitions_iff.mpr member, rfl⟩

/-- One more question about what the cache lacks, however it is answered, is counted and recorded. -/
theorem afterAnswer (agrees : cache.Agrees fetches) {name : Text}
    (missing : cache.definitions.get? name = none) (answer : Except Failure Enumeration) :
    (cache.afterAnswer name answer).Agrees (fetches ++ [⟨name, answer⟩]) where
  lookups := by
    rw [List.length_append, ← agrees.lookups]
    cases answer <;> rfl
  definitions := by
    rw [List.filterMap_append, ← agrees.definitions]
    cases answer with
    | error failure => exact (List.append_nil _).symm
    | ok definition =>
      exact Dict.insert_of_not_mem ((Dict.get?_eq_none_iff _ _).mp missing) definition
  once := by
    rw [List.pairwise_append]
    refine ⟨agrees.once, List.pairwise_singleton _ _, ?_⟩
    intro earlier member later last succeeded same
    rw [List.mem_singleton] at last
    subst last
    refine (Dict.get?_eq_none_iff _ _).mp missing ((agrees.mem_keys_iff name).mpr ?_)
    exact ⟨earlier, member, same.symm, succeeded⟩

/-- Keys are distinct, since nothing that was had is asked for again. -/
theorem nodup_keys (agrees : cache.Agrees fetches) : cache.definitions.keys.Nodup := by
  rw [Dict.keys, List.Nodup, List.pairwise_map, agrees.definitions]
  refine agrees.once.filterMap _ fun earlier later apart first gained second gains same => ?_
  obtain ⟨name, definition⟩ := first
  obtain ⟨_, other⟩ := second
  obtain rfl : name = _ := same
  obtain rfl := Fetch.gained?_eq_some_iff.mp gained
  obtain rfl := Fetch.gained?_eq_some_iff.mp gains
  exact apart rfl rfl

end Agrees

/-- What the record tells about the cache beside it. -/
structure Tallies (state : Cached (Recorded σ)) : Prop where
  /-- Every question is counted. -/
  lookups : state.cache.lookups = state.rest.fetches.length
  /-- The names are those that could be had. -/
  names : ∀ name, state.cache.has name = true ↔
    ∃ fetch ∈ state.rest.fetches, fetch.name = name ∧ fetch.succeeds = true
  size : state.cache.size = state.rest.fetches.countP Fetch.succeeds
  /-- What is held under a name is what the source once answered. -/
  held : ∀ name definition, state.cache.definitions.get? name = some definition ↔
    ⟨name, .ok definition⟩ ∈ state.rest.fetches
  /-- After an answer its name is not asked for again. -/
  once : state.rest.fetches.Pairwise fun earlier later =>
    earlier.succeeds = true → later.name ≠ earlier.name

theorem Agrees.tallies {state : Cached (Recorded σ)}
    (agrees : state.cache.Agrees state.rest.fetches) : Tallies state where
  lookups := agrees.lookups
  names name := (Dict.hasKey_iff _ _).trans (agrees.mem_keys_iff name)
  size := by
    rw [size, agrees.definitions, List.length_filterMap_eq_countP]
    rfl
  held name definition := by
    rw [← agrees.mem_definitions_iff]
    exact ⟨Dict.mem_of_get?_eq_some, Dict.get?_of_mem agrees.nodup_keys⟩
  once := agrees.once

/-! ### Calls -/

namespace Call

variable {source : EnumSource σ} {call : Call} {name : Text}

/-- A call resolves its name and does nothing else to the cache. -/
theorem perform_eq (source : EnumSource σ) (call : Call) (state : Cached σ) :
    call.perform source state = match call.name? with
      | none => state
      | some name => ((EnumCache.resolve source name).perform state).2 := by
  cases call with
  | resolve name => rfl
  | enumerate column property =>
    show (property.enumerate source column state).2.2 = _
    unfold Property.enumerate name?
    dsimp only
    cases property.wanted? column with
    | none => rfl
    | some name =>
      dsimp only
      split <;> rename_i resolved <;> rw [resolved]

/-- What each of some calls keeps, all of them keep. -/
theorem performAll_keeps {source : EnumSource σ} (kind : Cached σ → Prop) {calls : List Call}
    (keeps : ∀ call ∈ calls, ∀ state, kind state → kind (call.perform source state))
    {state : Cached σ} (holds : kind state) : kind (performAll source state calls) := by
  induction calls generalizing state with
  | nil => exact holds
  | cons call rest inductionHypothesis =>
    rw [List.forall_mem_cons] at keeps
    exact inductionHypothesis keeps.2 (keeps.1 state holds)

/-- What a call can leave behind: the same, if there is nothing to ask for; or else one more question,
with its answer kept if it could be had. -/
inductive Leaves (call : Call) (state : Cached (Recorded σ)) : Cached (Recorded σ) → Prop where
  | same (known : ∀ name, call.name? = some name → name ∈ state.cache.definitions.keys) :
      Leaves call state state
  | asked (name : Text) (answer : Except Failure Enumeration) (rest : σ)
      (named : call.name? = some name) (missing : state.cache.definitions.get? name = none) :
      Leaves call state
        { cache := state.cache.afterAnswer name answer
          rest := { rest, fetches := state.rest.fetches ++ [⟨name, answer⟩] } }

theorem leaves_perform (source : EnumSource σ) (call : Call) (state : Cached (Recorded σ)) :
    Leaves call state (call.perform source.recorded state) := by
  rw [perform_eq]
  cases named : call.name? with
  | none => exact .same fun _ resolves => nomatch named.symm.trans resolves
  | some name =>
    dsimp only
    cases found : state.cache.definitions.get? name with
    | some definition =>
      rw [EnumCache.perform_resolve_of_some _ found]
      refine .same fun other resolves => ?_
      cases named.symm.trans resolves
      exact Dict.mem_keys_of_get?_eq_some found
    | none =>
      rw [EnumCache.perform_resolve_of_none _ found]
      exact .asked name _ _ named found

theorem agrees_perform (source : EnumSource σ) (call : Call) {state : Cached (Recorded σ)}
    (agrees : state.cache.Agrees state.rest.fetches) :
    (call.perform source.recorded state).cache.Agrees
      (call.perform source.recorded state).rest.fetches := by
  have leaves := leaves_perform source call state
  generalize call.perform source.recorded state = after at leaves
  cases leaves with
  | same => exact agrees
  | asked name answer rest named missing => exact agrees.afterAnswer missing answer

/-- What the cache holds under a name it lets no call change, unless a call resolves a name that it
lacks. -/
theorem get?_perform (source : EnumSource σ) {state : Cached (Recorded σ)}
    (settled : call.name? = some name → name ∈ state.cache.definitions.keys) :
    (call.perform source.recorded state).cache.definitions.get? name =
      state.cache.definitions.get? name := by
  have leaves := leaves_perform source call state
  generalize call.perform source.recorded state = after at leaves
  cases leaves with
  | same => rfl
  | asked asked answer rest named missing =>
    cases answer with
    | error failure => rfl
    | ok gained =>
      have other : name ≠ asked := by
        rintro rfl
        exact (Dict.get?_eq_none_iff _ _).mp missing (settled named)
      exact Dict.get?_insert_of_ne _ other gained

/-- What an enumeration is held as stays. -/
theorem get?_performAll (source : EnumSource σ) (calls : List Call) {state : Cached (Recorded σ)}
    {definition : Enumeration} (held : state.cache.definitions.get? name = some definition) :
    (performAll source.recorded state calls).cache.definitions.get? name = some definition :=
  performAll_keeps (·.cache.definitions.get? name = some definition)
    (fun _ _ _ held => (get?_perform source fun _ => Dict.mem_keys_of_get?_eq_some held).trans held)
    held

/-- A name that the cache lacks it still lacks after calls that resolve others. -/
theorem get?_performAll_eq_none (source : EnumSource σ) {calls : List Call}
    (others : ∀ other ∈ calls, other.name? ≠ some name) {state : Cached (Recorded σ)}
    (missing : state.cache.definitions.get? name = none) :
    (performAll source.recorded state calls).cache.definitions.get? name = none :=
  performAll_keeps (·.cache.definitions.get? name = none)
    (fun other member _ missing =>
      (get?_perform source fun resolves => absurd resolves (others other member)).trans missing)
    missing

/-- What a call adds to the record and to the cache. -/
structure Adds (call : Call) (before after : Cached (Recorded σ)) : Prop where
  /-- It asks for nothing but the name that it resolves, and for that exactly if it is not held. -/
  asks : ∃ fetched, after.rest.fetches = before.rest.fetches ++ fetched ∧
    fetched.map Fetch.name = (call.name?.filter fun name => !before.cache.has name).toList
  /-- A question that fails leaves every entry as it was, and adds none. -/
  fails : ∀ name failure, after.rest.fetches = before.rest.fetches ++ [⟨name, .error failure⟩] →
    after.cache.definitions = before.cache.definitions

theorem adds_perform (source : EnumSource σ) (call : Call) (state : Cached (Recorded σ)) :
    Adds call state (call.perform source.recorded state) := by
  have leaves := leaves_perform source call state
  generalize call.perform source.recorded state = after at leaves
  cases leaves with
  | same known =>
    constructor
    · refine ⟨[], (List.append_nil _).symm, ?_⟩
      have idle : call.name?.filter (fun name => !state.cache.has name) = none := by
        rw [Option.filter_eq_none_iff]
        intro name resolves
        rw [has, (Dict.hasKey_iff _ _).mpr (known name resolves)]
        decide
      rw [idle]
      rfl
    · exact fun _ _ _ => rfl
  | asked name answer rest named missing =>
    constructor
    · refine ⟨[⟨name, answer⟩], rfl, ?_⟩
      have lacks : state.cache.has name = false := by
        rw [← Bool.not_eq_true, has, Dict.hasKey_iff]
        exact (Dict.get?_eq_none_iff _ _).mp missing
      rw [named, Option.filter_some, lacks]
      rfl
    · intro other failure failed
      have same : (⟨name, answer⟩ : Fetch) = ⟨other, .error failure⟩ :=
        List.singleton_inj.mp (List.append_cancel_left failed)
      cases same
      rfl

/-- Whether questions are recorded makes no difference to what they do. -/
theorem perform_forget (source : EnumSource σ) (call : Call) (state : Cached (Recorded σ)) :
    (call.perform source.recorded state).forget = call.perform source state.forget := by
  rw [perform_eq, perform_eq]
  cases call.name? with
  | none => rfl
  | some name =>
    dsimp only
    cases found : state.cache.definitions.get? name with
    | some definition =>
      have same : state.forget.cache.definitions.get? name = some definition := found
      rw [EnumCache.perform_resolve_of_some _ found, EnumCache.perform_resolve_of_some _ same]
    | none =>
      have same : state.forget.cache.definitions.get? name = none := found
      rw [EnumCache.perform_resolve_of_none _ found, EnumCache.perform_resolve_of_none _ same]
      rfl

theorem performAll_forget (source : EnumSource σ) (calls : List Call)
    (state : Cached (Recorded σ)) :
    (performAll source.recorded state calls).forget = performAll source state.forget calls := by
  induction calls generalizing state with
  | nil => rfl
  | cons call rest inductionHypothesis =>
    show (performAll source.recorded (call.perform source.recorded state) rest).forget = _
    rw [inductionHypothesis, perform_forget]
    rfl

/-- The call asks for one name. -/
def AsksFor (source : EnumSource σ) (state : Cached (Recorded σ)) (call : Call) (name : Text)
    (answer : Except Failure Enumeration) : Prop :=
  (call.perform source.recorded state).rest.fetches = state.rest.fetches ++ [⟨name, answer⟩]

/-- A name that could not be had is asked for again by the next call that resolves it. -/
theorem asksFor_again {state : Cached (Recorded σ)} {failure : Failure}
    (failed : AsksFor source state call name (.error failure)) {between : List Call}
    (others : ∀ other ∈ between, other.name? ≠ some name) {again : Call}
    (resolves : again.name? = some name) :
    ∃ answer, AsksFor source
      (performAll source.recorded (call.perform source.recorded state) between) again name
      answer := by
  have missing : (call.perform source.recorded state).cache.definitions.get? name = none := by
    have leaves := leaves_perform source call state
    unfold AsksFor at failed
    generalize call.perform source.recorded state = after at leaves failed
    cases leaves with
    | same => exact absurd failed.symm (by simp)
    | asked asked answer rest named lacks =>
      have same : (⟨asked, answer⟩ : Fetch) = ⟨name, .error failure⟩ :=
        List.singleton_inj.mp (List.append_cancel_left failed)
      cases same
      exact lacks
  have still := get?_performAll_eq_none source others missing
  generalize performAll source.recorded _ between = later at still
  have leaves := leaves_perform source again later
  unfold AsksFor
  generalize again.perform source.recorded later = after at leaves
  cases leaves with
  | same known => exact absurd (known name resolves) ((Dict.get?_eq_none_iff _ _).mp still)
  | asked asked answer rest named lacks =>
    cases resolves.symm.trans named
    exact ⟨answer, rfl⟩

/-- However many calls there have been, and however many of them failed: the cache tallies with the
record, one more call adds to both as it should, what is held stays, and what could not be had is asked
for again. -/
theorem performAll_tallies (source : EnumSource σ) (rest : σ) (calls : List Call) :
    let state := performAll source.recorded { cache := {}, rest := { rest, fetches := [] } } calls
    state.forget = performAll source { cache := {}, rest } calls ∧
      Tallies state ∧
      (∀ call, Adds call state (call.perform source.recorded state)) ∧
      (∀ more name definition, state.cache.definitions.get? name = some definition →
        (performAll source.recorded state more).cache.definitions.get? name = some definition) ∧
      ∀ call name failure, AsksFor source state call name (.error failure) →
        ∀ between : List Call, (∀ other ∈ between, other.name? ≠ some name) →
          ∀ again : Call, again.name? = some name →
            ∃ answer, AsksFor source
              (performAll source.recorded (call.perform source.recorded state) between) again name
              answer := by
  intro state
  have agrees : state.cache.Agrees state.rest.fetches :=
    performAll_keeps (fun state : Cached (Recorded σ) => state.cache.Agrees state.rest.fetches)
      (fun call _ _ => agrees_perform source call) agrees_empty
  refine ⟨performAll_forget source calls _, agrees.tallies,
    fun call => adds_perform source call state,
    fun more name definition held => get?_performAll source more held,
    fun call name failure failed between others again resolves =>
      asksFor_again failed others resolves⟩

/-- A source that has no enumeration when it is asked first, and any after that. -/
def unreadyAtFirst : EnumSource Nat := fun name => .ofFunction fun asked =>
  let answer := match asked with
    | 0 => .error (.malformed (.unknownEnumeration name))
    | _ + 1 => .ok { name, values := [(1, "First")] }
  (answer, asked + 1)

/-- A column whose enumeration could not be had gets it when it is asked for again, after others. -/
theorem performAll_tallies_unreadyAtFirst :
    let start : Cached (Recorded Nat) := { cache := {}, rest := { rest := 0, fetches := [] } }
    let listing : Call := .enumerate "Entry_RoomEnum" {}
    let failure : Failure := .malformed (.unknownEnumeration "RoomEnum")
    AsksFor unreadyAtFirst start listing "RoomEnum" (.error failure) ∧
      (performAll unreadyAtFirst.recorded start
        [listing, .resolve "BedEnum", .enumerate "RoomID" {}]).cache.size = 1 ∧
      ∃ answer, AsksFor unreadyAtFirst
        (performAll unreadyAtFirst.recorded (listing.perform unreadyAtFirst.recorded start)
          [.resolve "BedEnum", .enumerate "RoomID" {}]) (.resolve "RoomEnum") "RoomEnum" answer := by
  intro start listing failure
  have failed : AsksFor unreadyAtFirst start listing "RoomEnum" (.error failure) := by rfl
  refine ⟨failed, by rfl, ?_⟩
  have again := (performAll_tallies unreadyAtFirst 0 []).2.2.2.2
  exact again listing "RoomEnum" _ failed _ (by decide +kernel) _ rfl

end Call

end EnumCache

end ApiDoc
