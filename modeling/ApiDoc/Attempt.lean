/-
This file defines attempts. An attempt works on a state and may fail; what it has done to the state
before it failed stays done.
-/
import ApiDoc.Failure

namespace ApiDoc

/-- Work on a state that yields a value or fails. -/
abbrev Attempt (σ α : Type) := ExceptT Failure (StateM σ) α

namespace Attempt

variable {σ α : Type}

/-- The outcome of an attempt and the state it leaves behind. -/
def perform (attempt : Attempt σ α) (state : σ) : Except Failure α × σ := StateT.run attempt state

/-- The attempt that a function from states to outcomes describes. -/
def ofFunction (function : σ → Except Failure α × σ) : Attempt σ α := ExceptT.mk function

/-- The attempt that does nothing and has a given outcome. -/
def ofExcept (outcome : Except Failure α) : Attempt σ α := .ofFunction fun state => (outcome, state)

/-- The attempt that works without failing. -/
def ofWork (work : StateM σ α) : Attempt σ α := ExceptT.lift work

end Attempt

end ApiDoc
