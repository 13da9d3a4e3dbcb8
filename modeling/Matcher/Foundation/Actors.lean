import Mathlib.Logic.Function.Basic

/-!
# Actors over a shared store

Any number of actors work on one store.  What an actor has read and what it does
next is its phase, so a step of an actor changes its own phase and possibly the
store.  A relation between the store and a phase holds for every actor after a
step if the step's own actor has it and a write keeps it for the others.
-/

namespace Matcher.Foundation

/-- A transaction is committed or not, and its caller may get an error in both
cases. -/
inductive CommitOutcome (ε : Type)
  | committed
  | refused (cause : ε)
  | unacknowledged (cause : ε)
deriving DecidableEq, Repr

structure Actors (κ σ φ : Type) where
  store : σ
  phase : κ → φ

namespace Actors

variable {κ σ φ : Type} {actor : κ} {phase : φ}

def initial (store : σ) (idle : φ) : Actors κ σ φ where
  store := store
  phase _ := idle

variable [DecidableEq κ] (actors : Actors κ σ φ)

def goto (actor : κ) (phase : φ) : Actors κ σ φ :=
  { actors with phase := Function.update actors.phase actor phase }

def put (actor : κ) (store : σ) (phase : φ) : Actors κ σ φ :=
  { actors.goto actor phase with store := store }

@[simp] theorem put_store (actor : κ) (store : σ) (phase : φ) :
    (actors.put actor store phase).store = store := rfl

@[simp] theorem goto_phase_self (actor : κ) (phase : φ) :
    (actors.goto actor phase).phase actor = phase := by
  simp [goto]

@[simp] theorem goto_phase_of_ne {other : κ} (h : other ≠ actor) (phase : φ) :
    (actors.goto actor phase).phase other = actors.phase other := by
  simp [goto, h]

@[simp] theorem put_phase (actor : κ) (store : σ) (phase : φ) :
    (actors.put actor store phase).phase = (actors.goto actor phase).phase :=
  rfl

/-! ## What holds of every actor -/

def Every (related : κ → σ → φ → Prop) (actors : Actors κ σ φ) : Prop :=
  ∀ actor, related actor actors.store (actors.phase actor)

variable {related : κ → σ → φ → Prop} {actors : Actors κ σ φ}

omit [DecidableEq κ] in
theorem Every.of_phase (h : actors.Every related)
    (hphase : actors.phase actor = phase) : related actor actors.store phase := by
  rw [← hphase]
  exact h actor

theorem Every.put (h : actors.Every related) {store : σ} (hactor : related actor store phase)
    (hothers : ∀ other, other ≠ actor →
      related other actors.store (actors.phase other) →
      related other store (actors.phase other)) : (actors.put actor store phase).Every related := by
  intro other
  by_cases hother : other = actor
  · subst hother
    simpa using hactor
  · simpa [hother] using hothers other hother (h other)

theorem Every.goto (h : actors.Every related) (hactor : related actor actors.store phase) :
    (actors.goto actor phase).Every related :=
  h.put hactor fun _ _ hother => hother

end Actors

end Matcher.Foundation
