import Mathlib.Data.Nat.Basic

/-!
# Loops that may run forever

A loop repeats a step until the step answers.  Executed with bounded fuel it gives
the answer or runs out; it returns if some amount of fuel is enough.
-/

namespace Matcher.Foundation

universe u v w

inductive Turn (σ : Type u) (β : Type v)
  | next (state : σ)
  | done (result : β)

section

variable {σ : Type u} {τ : Type w} {β : Type v} {step : σ → Turn σ β} {state : σ} {result : β}
  {step' : τ → Turn τ β}

def repeatStep (step : σ → Turn σ β) : ℕ → σ → Option β
  | 0, _ => none
  | fuel + 1, state =>
    match step state with
    | .done result => some result
    | .next state' => repeatStep step fuel state'

def Returns (step : σ → Turn σ β) (state : σ) (result : β) : Prop :=
  ∃ fuel, repeatStep step fuel state = some result

theorem returns_of_done {answer : β} (h : step state = .done answer) :
    Returns step state result ↔ result = answer := by
  constructor
  · rintro ⟨fuel, hfuel⟩
    cases fuel with
    | zero => cases hfuel
    | succ =>
      simp only [repeatStep, h, Option.some.injEq] at hfuel
      exact hfuel.symm
  · rintro rfl
    exact ⟨1, by simp only [repeatStep, h]⟩

theorem returns_of_next {state' : σ} (h : step state = .next state') :
    Returns step state result ↔ Returns step state' result := by
  constructor
  · rintro ⟨fuel, hfuel⟩
    cases fuel with
    | zero => cases hfuel
    | succ fuel =>
      simp only [repeatStep, h] at hfuel
      exact ⟨fuel, hfuel⟩
  · rintro ⟨fuel, hfuel⟩
    exact ⟨fuel + 1, by simp only [repeatStep, h]; exact hfuel⟩

theorem not_returns_of_invariant (inv : σ → Prop)
    (hstep : ∀ state, inv state → ∃ state', step state = .next state' ∧ inv state')
    (hstate : inv state) (result : β) : ¬ Returns step state result := by
  rintro ⟨fuel, hfuel⟩
  induction fuel generalizing state with
  | zero => cases hfuel
  | succ _ ih =>
    obtain ⟨state', hnext, hinv⟩ := hstep state hstate
    simp only [repeatStep, hnext] at hfuel
    exact ih hinv hfuel

/-- The two turns answer the same, or go on to related states. -/
inductive Turn.Related (relation : σ → τ → Prop) : Turn σ β → Turn τ β → Prop
  | next {state : σ} {other : τ} (h : relation state other) :
      Turn.Related relation (.next state) (.next other)
  | done (result : β) : Turn.Related relation (.done result) (.done result)

theorem returns_iff_of_simulation {relation : σ → τ → Prop}
    (hstep : ∀ state other, relation state other → Turn.Related relation (step state) (step' other))
    {other : τ} (hstate : relation state other) :
    Returns step state result ↔ Returns step' other result := by
  have hsame : ∀ fuel state other, relation state other →
      repeatStep step fuel state = repeatStep step' fuel other := by
    intro fuel
    induction fuel with
    | zero =>
      intro state other _
      rfl
    | succ _ ih =>
      intro state other hrelated
      have hturns := hstep state other hrelated
      simp only [repeatStep]
      generalize step state = turn at hturns
      generalize step' other = turn' at hturns
      cases hturns with
      | next hnext => exact ih _ _ hnext
      | done => rfl
  unfold Returns
  simp only [hsame _ state other hstate]

theorem returns_iff_of_image {image : σ → τ}
    (hstep : ∀ state, Turn.Related (fun state other => other = image state)
      (step state) (step' (image state))) :
    Returns step state result ↔ Returns step' (image state) result := by
  have hrelated : ∀ state other, other = image state →
      Turn.Related (fun state other => other = image state) (step state) (step' other) := by
    rintro state _ rfl
    exact hstep state
  exact returns_iff_of_simulation hrelated rfl

end

end Matcher.Foundation
