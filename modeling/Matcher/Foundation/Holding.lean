import Mathlib.Data.List.Nodup
import Mathlib.Logic.Relation

/-!
# Exclusive holding

Resources are free or held by one holder.  A holder takes free resources and gives
back all it holds at once.
-/

namespace Matcher.Foundation

universe u v w

abbrev Holding (ρ : Type u) (γ : Type v) := ρ → Option γ

namespace Holding

variable {ρ : Type u} {γ : Type v} {holding : Holding ρ γ} {resource : ρ} {claims : ρ → Option γ}
  {holder : γ}

def allFree : Holding ρ γ := fun _ => none

def take (holding : Holding ρ γ) (claims : ρ → Option γ) : Holding ρ γ :=
  fun resource => (claims resource).or (holding resource)

def release [DecidableEq γ] (holding : Holding ρ γ) (holder : γ) : Holding ρ γ :=
  fun resource =>
    if holding resource = some holder then none else holding resource

/-- Only free resources are taken, and only by holders that hold nothing. -/
structure Takable (holding : Holding ρ γ) (claims : ρ → Option γ) : Prop where
  free : ∀ resource, (claims resource).isSome → holding resource = none
  fresh : ∀ resource holder, claims resource = some holder → ∀ other, holding other ≠ some holder

inductive Step [DecidableEq γ] : Holding ρ γ → Holding ρ γ → Prop
  | idle (holding : Holding ρ γ) : Step holding holding
  | take (holding : Holding ρ γ) (claims : ρ → Option γ) (htakable : Takable holding claims) :
      Step holding (holding.take claims)
  | release (holding : Holding ρ γ) (holder : γ) : Step holding (holding.release holder)

theorem Takable.not_claimed (h : holding.Takable claims) (hheld : holding resource = some holder) :
    claims resource = none := by
  by_contra hclaimed
  rw [h.free resource (Option.isSome_iff_ne_none.mpr hclaimed)] at hheld
  cases hheld

def claimsOf {κ : Type w} [DecidableEq ρ] (name : κ → γ) (wants : κ → List ρ) (claimants : List κ) :
    ρ → Option γ :=
  fun resource =>
    (claimants.find? fun claimant => resource ∈ wants claimant).map name

section Claims

variable {κ : Type w} [DecidableEq ρ] {name : κ → γ} {wants : κ → List ρ}
  {claimants : List κ} {resource : ρ}

theorem claimsOf_isSome :
    (claimsOf name wants claimants resource).isSome ↔
      ∃ claimant ∈ claimants, resource ∈ wants claimant := by
  unfold claimsOf
  rw [Option.isSome_map, List.find?_isSome]
  simp only [decide_eq_true_eq]

theorem claimsOf_eq_some (hnodup : (claimants.flatMap wants).Nodup) :
    claimsOf name wants claimants resource = some holder ↔
      ∃ claimant ∈ claimants, name claimant = holder ∧ resource ∈ wants claimant := by
  induction claimants with
  | nil => simp [claimsOf]
  | cons claimant rest ih =>
    rw [List.flatMap_cons] at hnodup
    have hrest := ih hnodup.of_append_right
    by_cases hwants : resource ∈ wants claimant
    · -- the first claimant wants it, so no other one does
      have hother : ¬ ∃ other ∈ rest, name other = holder ∧ resource ∈ wants other := by
        rintro ⟨other, hother, -, hmem⟩
        exact List.disjoint_of_nodup_append hnodup hwants
          (List.mem_flatMap.mpr ⟨other, hother, hmem⟩)
      simp [claimsOf, hwants, hother]
    · unfold claimsOf at hrest ⊢
      rw [List.find?_cons_of_neg (by simpa using hwants), hrest]
      simp [hwants]

theorem Takable.claimsOf (hnodup : (claimants.flatMap wants).Nodup)
    (hfree : ∀ claimant ∈ claimants, ∀ resource ∈ wants claimant, holding resource = none)
    (hfresh : ∀ claimant ∈ claimants, ∀ resource, holding resource ≠ some (name claimant)) :
    holding.Takable (claimsOf name wants claimants) := by
  constructor
  · intro resource hsome
    obtain ⟨claimant, hclaimant, hwants⟩ := claimsOf_isSome.mp hsome
    exact hfree claimant hclaimant resource hwants
  · intro resource holder hclaim other
    obtain ⟨claimant, hclaimant, rfl, -⟩ := (claimsOf_eq_some hnodup).mp hclaim
    exact hfresh claimant hclaimant other

end Claims

theorem take_eq_some (h : holding.Takable claims) :
    holding.take claims resource = some holder ↔
      claims resource = some holder ∨ holding resource = some holder := by
  unfold take
  cases hclaim : claims resource with
  | none => simp
  | some =>
    have hfree := h.free resource (by rw [hclaim]; rfl)
    simp [hfree]

theorem take_eq_none :
    holding.take claims resource = none ↔ claims resource = none ∧ holding resource = none :=
  Option.or_eq_none_iff

theorem release_eq_some [DecidableEq γ] {other : γ} :
    holding.release holder resource = some other ↔
      holding resource = some other ∧ other ≠ holder := by
  unfold release
  split
  case isTrue h =>
    rw [h]
    constructor
    · intro hnone
      cases hnone
    · rintro ⟨hsome, hne⟩
      exact absurd (Option.some.inj hsome).symm hne
  case isFalse h =>
    constructor
    · intro hsome
      refine ⟨hsome, ?_⟩
      rintro rfl
      exact h hsome
    · exact And.left

theorem release_eq_none [DecidableEq γ] :
    holding.release holder resource = none ↔
      holding resource = none ∨ holding resource = some holder := by
  unfold release
  split
  case isTrue h => simp [h]
  case isFalse h => simp [h]

end Holding

end Matcher.Foundation
