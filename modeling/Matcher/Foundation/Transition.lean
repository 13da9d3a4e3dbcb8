import Mathlib.Logic.Relation

/-!
# Runs of a labelled transition function

A label says which step is taken and what its surroundings answer, so a run is a
fold over labels.  What every step preserves under a condition holds after every
run that meets the condition, and a step-by-step simulation carries such a run
over to the system that it is simulated in.
-/

namespace Matcher.Foundation

universe u v w

variable {σ : Type u} {l : Type v} {τ : Type w} {state : σ} {allowed : l → Prop}

/-- Each step of the run is taken in a state that meets the condition. -/
def Meets (step : σ → l → σ) (condition : σ → l → Prop) : σ → List l → Prop
  | _, [] => True
  | state, label :: rest => condition state label ∧ Meets step condition (step state label) rest

instance Meets.decidable (step : σ → l → σ) (condition : σ → l → Prop)
    [∀ state label, Decidable (condition state label)] :
    ∀ (start : σ) (labels : List l), Decidable (Meets step condition start labels)
  | _, [] => isTrue trivial
  | start, label :: rest =>
    have := Meets.decidable step condition (step start label) rest
    inferInstanceAs (Decidable (_ ∧ _))

variable {step : σ → l → σ} {condition : σ → l → Prop}

theorem Meets.of_forall (h : ∀ state label, condition state label) (start : σ) (labels : List l) :
    Meets step condition start labels := by
  induction labels generalizing start with
  | nil => trivial
  | cons label _ ih => exact ⟨h start label, ih _⟩

variable {labels : List l} {start : σ}

theorem Meets.of_labels (h : ∀ label ∈ labels, allowed label) (start : σ) :
    Meets step (fun _ label => allowed label) start labels := by
  induction labels generalizing start with
  | nil => trivial
  | cons label _ ih =>
    exact ⟨h label List.mem_cons_self,
      ih (fun other hother => h other (List.mem_cons_of_mem label hother)) _⟩

theorem Meets.of_isPrefix {reached : List l} (h : Meets step condition state labels)
    (hreached : reached <+: labels) : Meets step condition state reached := by
  induction reached generalizing state labels with
  | nil => trivial
  | cons _ rest ih =>
    obtain ⟨more, rfl⟩ := hreached
    exact ⟨h.1, ih h.2 (List.prefix_append rest more)⟩

theorem Meets.of_append {first rest : List l} (h : Meets step condition state (first ++ rest)) :
    Meets step condition (first.foldl step state) rest := by
  induction first generalizing state with
  | nil => exact h
  | cons _ _ ih => exact ih h.2

/-- The condition, said of every step by the steps before it. -/
theorem Meets.iff_forall :
    Meets step condition start labels ↔
      ∀ reached label, reached ++ [label] <+: labels →
        condition (reached.foldl step start) label := by
  constructor
  · intro h reached label hreached
    exact (h.of_isPrefix hreached).of_append.1
  · intro h
    induction labels generalizing start with
    | nil => trivial
    | cons label rest ih =>
      refine ⟨h [] label (List.prefix_append [label] rest), ih ?_⟩
      intro reached other hreached
      exact h (label :: reached) other (List.cons_prefix_cons.mpr ⟨rfl, hreached⟩)

theorem Meets.and_forall (h : Meets step condition state labels)
    (hallowed : ∀ label ∈ labels, allowed label) :
    Meets step (fun state label => condition state label ∧ allowed label) state
      labels := by
  induction labels generalizing state with
  | nil => trivial
  | cons label _ ih =>
    exact ⟨⟨h.1, hallowed label List.mem_cons_self⟩,
      ih h.2 fun other hother =>
        hallowed other (List.mem_cons_of_mem label hother)⟩

/-- When a step under the condition keeps the invariant, and one that keeps the
property meets the condition, the runs that meet the condition are those in which
the property holds throughout. -/
theorem Meets.iff_always (inv good : σ → Prop) (hstart : inv start)
    (hgood : ∀ state, inv state → good state)
    (hkept : ∀ state label, inv state → condition state label → inv (step state label))
    (hneeded : ∀ state label, inv state → good (step state label) → condition state label)
    (labels : List l) :
    (∀ reached, reached <+: labels → good (reached.foldl step start)) ↔
      Meets step condition start labels := by
  induction labels generalizing start with
  | nil =>
    constructor
    · intro _
      trivial
    · intro _ reached hreached
      rw [List.prefix_nil.mp hreached]
      exact hgood start hstart
  | cons label rest ih =>
    constructor
    · intro h
      have hcondition := hneeded start label hstart (h [label] (List.prefix_append [label] rest))
      refine ⟨hcondition, (ih (hkept start label hstart hcondition)).mp ?_⟩
      intro reached hreached
      exact h (label :: reached) (List.cons_prefix_cons.mpr ⟨rfl, hreached⟩)
    · intro h reached hreached
      cases reached with
      | nil => exact hgood start hstart
      | cons first others =>
        obtain ⟨rfl, hothers⟩ := List.cons_prefix_cons.mp hreached
        exact (ih (hkept start first hstart h.1)).mpr h.2 others hothers

/-- When a step keeps the invariant exactly under the condition, the runs that meet
the condition are those in which the invariant holds throughout. -/
theorem Meets.iff_invariant (inv : σ → Prop) (hstart : inv start)
    (hstep : ∀ state label, inv state → (inv (step state label) ↔ condition state label))
    (labels : List l) :
    (∀ reached, reached <+: labels → inv (reached.foldl step start)) ↔
      Meets step condition start labels :=
  Meets.iff_always inv inv hstart (fun _ h => h) (fun state label h => (hstep state label h).mpr)
    (fun state label h => (hstep state label h).mp) labels

theorem Meets.imp {other : σ → l → Prop} (h : Meets step condition start labels) (inv : σ → Prop)
    (hstart : inv start) (hstep : ∀ state label, inv state → condition state label →
      other state label ∧ inv (step state label)) : Meets step other start labels := by
  induction labels generalizing start with
  | nil => trivial
  | cons label _ ih =>
    obtain ⟨hother, hnext⟩ := hstep start label hstart h.1
    exact ⟨hother, ih h.2 hnext⟩

/-- The simulation rule: related states stay related along a run. -/
theorem Meets.simulation (h : Meets step condition start labels) {specStep : τ → τ → Prop}
    {related : σ → τ → Prop} {specStart : τ} (hstart : related start specStart)
    (hstep : ∀ state label spec, related state spec → condition state label →
      ∃ specNext, specStep spec specNext ∧ related (step state label) specNext) :
    ∃ specFinish, Relation.ReflTransGen specStep specStart specFinish ∧
      related (labels.foldl step start) specFinish := by
  induction labels generalizing start specStart with
  | nil => exact ⟨specStart, .refl, hstart⟩
  | cons label _ ih =>
    obtain ⟨specNext, hspecStep, hnext⟩ := hstep start label specStart hstart h.1
    obtain ⟨specFinish, hrun, hfinish⟩ := ih h.2 hnext
    exact ⟨specFinish, .head hspecStep hrun, hfinish⟩

theorem Meets.invariant (h : Meets step condition start labels) (inv : σ → Prop)
    (hstart : inv start)
    (hstep : ∀ state label, inv state → condition state label → inv (step state label)) :
    inv (labels.foldl step start) := by
  induction labels generalizing start with
  | nil => exact hstart
  | cons label _ ih => exact ih h.2 (hstep start label hstart h.1)

end Matcher.Foundation
