/-
This file says how attempts are performed: step by step, each on the state that the step before it
leaves behind, up to the first that fails.
-/
import ApiDoc.Attempt
import Mathlib.Data.List.Forall2

namespace ApiDoc

variable {σ α β : Type}

/-! ### Outcomes -/

theorem bind_eq_ok_iff {ε : Type} {outcome : Except ε α} {next : α → Except ε β} {value : β} :
    outcome >>= next = .ok value ↔ ∃ first, outcome = .ok first ∧ next first = .ok value := by
  cases outcome with
  | error failure => exact iff_of_false nofun fun ⟨_, fails, _⟩ => nomatch fails
  | ok first => exact ⟨fun yields => ⟨first, rfl, yields⟩, fun ⟨_, same, yields⟩ => by
      cases same
      exact yields⟩

theorem bind_eq_error_iff {ε : Type} {outcome : Except ε α} {next : α → Except ε β} {failure : ε} :
    outcome >>= next = .error failure ↔
      outcome = .error failure ∨ ∃ first, outcome = .ok first ∧ next first = .error failure := by
  cases outcome with
  | error fails =>
    refine ⟨fun same => Or.inl (congrArg Except.error (Except.error.inj same)), ?_⟩
    rintro (same | ⟨_, reads, _⟩)
    · exact congrArg Except.error (Except.error.inj same)
    · cases reads
  | ok first =>
    refine ⟨fun fails => Or.inr ⟨first, rfl, fails⟩, ?_⟩
    rintro (same | ⟨_, same, fails⟩)
    · cases same
    · cases same
      exact fails

/-- What only changes a value fails as the value does. -/
theorem bind_pure_eq_error_iff {ε : Type} {outcome : Except ε α} {change : α → β} {failure : ε} :
    (outcome >>= fun value => pure (change value)) = .error failure ↔ outcome = .error failure := by
  refine bind_eq_error_iff.trans (or_iff_left ?_)
  rintro ⟨_, _, fails⟩
  cases fails

/-- What only changes a value yields something if there is a value. -/
theorem exists_bind_pure_iff {ε : Type} {outcome : Except ε α} {change : α → β} :
    (∃ next, (outcome >>= fun value => pure (change value)) = .ok next) ↔
      ∃ value, outcome = .ok value := by
  cases outcome with
  | error failure => exact iff_of_false nofun nofun
  | ok value => exact iff_of_true ⟨_, rfl⟩ ⟨value, rfl⟩

theorem map_eq_ok_iff {ε : Type} {outcome : Except ε α} {change : α → β} {value : β} :
    outcome.map change = .ok value ↔ ∃ first, outcome = .ok first ∧ change first = value := by
  cases outcome with
  | error failure => exact iff_of_false nofun fun ⟨_, fails, _⟩ => nomatch fails
  | ok first =>
    simp only [Except.map, Except.ok.injEq, exists_eq_left']

/-- What is related to a list item by item comes from an item. -/
theorem exists_of_forall₂ {relation : α → β → Prop} {items : List α} {values : List β}
    (related : List.Forall₂ relation items values) {value : β} (member : value ∈ values) :
    ∃ item ∈ items, relation item value := by
  induction related with
  | nil => cases member
  | cons first _ inductionHypothesis =>
    rcases List.mem_cons.mp member with rfl | later
    · exact ⟨_, List.mem_cons_self, first⟩
    · obtain ⟨item, among, holds⟩ := inductionHypothesis later
      exact ⟨item, List.mem_cons_of_mem _ among, holds⟩

/-- Reading a list item by item yields what the items are read as, in their order. -/
theorem mapM_eq_ok_iff {ε : Type} {read : α → Except ε β} {list : List α} {parts : List β} :
    list.mapM read = .ok parts ↔
      List.Forall₂ (fun item part => read item = .ok part) list parts := by
  constructor
  · intro reads
    induction list generalizing parts with
    | nil =>
      cases reads
      exact .nil
    | cons item rest inductionHypothesis =>
      rw [List.mapM_cons] at reads
      obtain ⟨first, readsFirst, readsRest⟩ := bind_eq_ok_iff.mp reads
      obtain ⟨others, readsOthers, same⟩ := bind_eq_ok_iff.mp readsRest
      cases same
      exact .cons readsFirst (inductionHypothesis readsOthers)
  · intro related
    induction related with
    | nil => rfl
    | cons readsFirst _ inductionHypothesis =>
      rw [List.mapM_cons, readsFirst, inductionHypothesis]
      rfl

/-- Reading a list item by item fails as the first item does that cannot be read. -/
theorem mapM_eq_error_iff {ε : Type} {read : α → Except ε β} {list : List α} {failure : ε} :
    list.mapM read = .error failure ↔
      ∃ before item after, list = before ++ item :: after ∧
        (∀ other ∈ before, ∃ part, read other = .ok part) ∧ read item = .error failure := by
  induction list with
  | nil => exact iff_of_false nofun fun ⟨before, item, after, parts, _⟩ => by simp at parts
  | cons first rest inductionHypothesis =>
    rw [List.mapM_cons, bind_eq_error_iff]
    constructor
    · rintro (stops | ⟨part, reads, stops⟩)
      · exact ⟨[], first, rest, rfl, nofun, stops⟩
      · rcases bind_eq_error_iff.mp stops with later | ⟨_, _, done⟩
        · obtain ⟨before, item, after, rfl, readable, fails⟩ := inductionHypothesis.mp later
          exact ⟨first :: before, item, after, rfl,
            List.forall_mem_cons.mpr ⟨⟨part, reads⟩, readable⟩, fails⟩
        · cases done
    · rintro ⟨before, item, after, parts, readable, stops⟩
      cases before with
      | nil =>
        obtain ⟨rfl, -⟩ := List.cons.inj parts
        exact Or.inl stops
      | cons head others =>
        obtain ⟨rfl, rfl⟩ := List.cons.inj parts
        obtain ⟨⟨part, reads⟩, readableOthers⟩ := List.forall_mem_cons.mp readable
        refine Or.inr ⟨part, reads, bind_eq_error_iff.mpr (Or.inl ?_)⟩
        exact inductionHypothesis.mpr ⟨others, item, after, rfl, readableOthers, stops⟩

namespace Attempt

/-! ### Performing -/

@[simp] theorem perform_pure (value : α) (state : σ) :
    (pure value : Attempt σ α).perform state = (.ok value, state) := rfl

@[simp] theorem perform_throw (failure : Failure) (state : σ) :
    (throw failure : Attempt σ α).perform state = (.error failure, state) := rfl

@[simp] theorem perform_ofFunction (function : σ → Except Failure α × σ) (state : σ) :
    (ofFunction function).perform state = function state := rfl

@[simp] theorem perform_ofExcept (outcome : Except Failure α) (state : σ) :
    (ofExcept outcome).perform state = (outcome, state) := rfl

@[simp] theorem perform_ofWork (work : StateM σ α) (state : σ) :
    (ofWork work).perform state = (.ok (work state).1, (work state).2) := rfl

/-- A step is performed on what the step before it leaves, and only if that has not failed. -/
theorem perform_bind (attempt : Attempt σ α) (next : α → Attempt σ β) (state : σ) :
    (attempt >>= next).perform state = match attempt.perform state with
      | (.ok value, after) => (next value).perform after
      | (.error failure, after) => (.error failure, after) := by
  show (attempt.run >>= ExceptT.bindCont next) state = _
  show (ExceptT.bindCont next (attempt.run state).1) (attempt.run state).2 = _
  rw [show attempt.perform state = attempt.run state from rfl]
  obtain ⟨outcome, after⟩ := attempt.run state
  cases outcome <;> rfl

theorem perform_bind_of_ok {attempt : Attempt σ α} {state after : σ} {value : α}
    (succeeds : attempt.perform state = (.ok value, after)) (next : α → Attempt σ β) :
    (attempt >>= next).perform state = (next value).perform after := by
  rw [perform_bind, succeeds]

theorem perform_bind_of_error {attempt : Attempt σ α} {state after : σ} {failure : Failure}
    (fails : attempt.perform state = (.error failure, after)) (next : α → Attempt σ β) :
    (attempt >>= next).perform state = (.error failure, after) := by
  rw [perform_bind, fails]

/-- Work whose result is changed leaves behind what it leaves. -/
theorem run_map (work : StateM σ α) (change : α → β) (state : σ) :
    (do return change (← work) : StateM σ β) state =
      (change (work state).1, (work state).2) := rfl

/-! ### What attempts ensure -/

/-- From any state of a kind the attempt leaves a state of that kind, and whatever it yields is as
wanted. -/
def Ensures (kind : σ → Prop) (wanted : α → Prop) (attempt : Attempt σ α) : Prop :=
  ∀ state, kind state →
    kind (attempt.perform state).2 ∧
      ∀ value, (attempt.perform state).1 = .ok value → wanted value

namespace Ensures

variable {kind : σ → Prop} {wanted : α → Prop} {others : β → Prop}

theorem pure {value : α} (fits : wanted value) : Ensures kind wanted (Pure.pure value) :=
  fun _ holds => ⟨holds, fun _ same => Except.ok.inj same ▸ fits⟩

theorem throw (failure : Failure) :
    Ensures kind wanted (MonadExcept.throw failure : Attempt σ α) :=
  fun _ holds => ⟨holds, fun _ same => nomatch same⟩

theorem ofWork {work : StateM σ α}
    (fits : ∀ state, kind state → kind (work state).2 ∧ wanted (work state).1) :
    Ensures kind wanted (Attempt.ofWork work) := by
  intro state holds
  obtain ⟨holdsAfter, fitsValue⟩ := fits state holds
  exact ⟨holdsAfter, fun _ same => Except.ok.inj same ▸ fitsValue⟩

/-- A step that follows may rely on what the step before it ensures. -/
theorem bind {attempt : Attempt σ α} {next : α → Attempt σ β} (ensures : Ensures kind wanted attempt)
    (ensuresNext : ∀ value, wanted value → Ensures kind others (next value)) :
    Ensures kind others (attempt >>= next) := by
  intro state holds
  obtain ⟨holdsAfter, yields⟩ := ensures state holds
  rw [perform_bind]
  rcases performed : attempt.perform state with ⟨outcome, after⟩
  rw [performed] at holdsAfter yields
  cases outcome with
  | error failure => exact ⟨holdsAfter, fun _ same => nomatch same⟩
  | ok value => exact ensuresNext value (yields value rfl) after holdsAfter

end Ensures

end Attempt

end ApiDoc
