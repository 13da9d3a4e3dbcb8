import Mathlib.Data.List.Sort

/-!
# Stable sorting by a comparison function

A stable sort is given a strict comparison `less`.  When `less` decides the order
of a key in a linear order, and the key separates the elements of the list, the
sorted list does not depend on the order in which the elements were given.
-/

namespace Matcher.Foundation

universe u v

variable {α : Type u} {κ : Type v} {less : α → α → Bool}

/-- `sort.SliceStable`: an element moves forward only past strictly larger ones. -/
def stableSort (less : α → α → Bool) (items : List α) : List α :=
  items.insertionSort fun first second => less second first = false

theorem stableSort_perm (less : α → α → Bool) (items : List α) :
    (stableSort less items).Perm items :=
  List.perm_insertionSort _ items

@[simp] theorem mem_stableSort {items : List α} {item : α} :
    item ∈ stableSort less items ↔ item ∈ items :=
  (stableSort_perm less items).mem_iff

theorem stableSort_map {β : Type v} {imageLess : β → β → Bool} (image : α → β)
    (h : ∀ first second, imageLess (image first) (image second) = less first second)
    (items : List α) :
    stableSort imageLess (items.map image) = (stableSort less items).map image := by
  refine (List.map_insertionSort _ _ image items ?_).symm
  intro first _ second _
  rw [h]

theorem lexStep_iff [LinearOrder κ] {first second : κ} {rest : Bool} :
    (if first ≠ second then decide (first < second) else rest) = true ↔
      first < second ∨ first = second ∧ rest = true := by
  by_cases h : first = second <;> simp [h]

section Keyed

variable [LinearOrder κ] {less : α → α → Bool} {key : α → κ}

section

variable (hless : ∀ first second, less first second = true ↔ key first < key second)

include hless

theorem stableSort_pairwise (items : List α) :
    (stableSort less items).Pairwise fun first second => key first ≤ key second := by
  have hle : ∀ first second : α, less second first = false ↔ key first ≤ key second := by
    intro first second
    rw [← not_lt, ← hless, Bool.not_eq_true]
  have : Std.Total (α := α) fun first second => less second first = false :=
    ⟨fun first second => by
      rw [hle, hle]
      exact le_total (key first) (key second)⟩
  have : IsTrans α fun first second => less second first = false :=
    ⟨fun first second third => by
      rw [hle, hle, hle]
      exact le_trans⟩
  exact (List.pairwise_insertionSort _ items).imp fun h => (hle _ _).mp h

theorem stableSort_eq_of_perm {first second : List α} (hperm : first.Perm second)
    (hkey : ∀ item ∈ first, ∀ other ∈ first, key item = key other → item = other) :
    stableSort less first = stableSort less second := by
  have hsorted : (stableSort less first).Perm (stableSort less second) :=
    (stableSort_perm less first).trans (hperm.trans (stableSort_perm less second).symm)
  refine hsorted.eq_of_pairwise ?_ (stableSort_pairwise hless first)
    (stableSort_pairwise hless second)
  intro item other hitem hother hle hge
  have hotherFirst : other ∈ first := hperm.mem_iff.mpr (mem_stableSort.mp hother)
  exact hkey item (mem_stableSort.mp hitem) other hotherFirst (le_antisymm hle hge)

end

end Keyed

end Matcher.Foundation
