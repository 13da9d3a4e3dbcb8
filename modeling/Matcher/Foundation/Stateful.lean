import Matcher.Foundation.Loop

/-!
# Computations that fail without undoing

A computation reads and writes a state and ends with a value or with an error.
What it wrote before an error stays written, so the state after a failed sequence
is the one that the failing step left.
-/

namespace Matcher.Foundation

universe u

/-- The result of a computation on a state, and the state that it leaves. -/
def Stateful (σ ε α : Type u) : Type u := σ → Except ε α × σ

namespace Stateful

variable {σ ε α β : Type u} {state' state : σ} {next : α → Stateful σ ε β}
  {computation first : Stateful σ ε α} {f : ε → ε} {failure : ε} {value : α}

instance : Monad (Stateful σ ε) where
  pure value := fun state => (.ok value, state)
  bind first next := fun state =>
    match first state with
    | (.ok value, state') => next value state'
    | (.error failure, state') => (.error failure, state')

def get : Stateful σ ε σ := fun state => (.ok state, state)

def ofExcept (result : Except ε α) : Stateful σ ε α := fun state =>
  (result, state)

def mapError (f : ε → ε) (computation : Stateful σ ε α) : Stateful σ ε α :=
  fun state => ((computation state).1.mapError f, (computation state).2)

theorem bind_of_ok (h : first state = (.ok value, state')) :
    (first >>= next) state = next value state' := by
  simp only [bind, h]

theorem bind_of_error (h : first state = (.error failure, state')) :
    (first >>= next) state = (.error failure, state') := by
  simp only [bind, h]

@[simp] theorem get_bind (next : σ → Stateful σ ε α) (state : σ) :
    ((get : Stateful σ ε σ) >>= next) state = next state state := rfl

@[simp] theorem ofExcept_ok_bind (value : α) (next : α → Stateful σ ε β) (state : σ) :
    ((ofExcept (.ok value) : Stateful σ ε α) >>= next) state =
      next value state :=
  rfl

theorem mapError_of_ok (h : computation state = (.ok value, state')) :
    computation.mapError f state = (.ok value, state') := by
  simp only [mapError, h, Except.mapError]

theorem mapError_of_error (h : computation state = (.error failure, state')) :
    computation.mapError f state = (.error (f failure), state') := by
  simp only [mapError, h, Except.mapError]

end Stateful

end Matcher.Foundation
