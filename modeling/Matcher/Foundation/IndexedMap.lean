import Mathlib.Data.List.Induction
import Mathlib.Data.List.Nodup
import Mathlib.Logic.Function.Basic

/-!
# Maps built from lists

A map is a partial function.  Indexing a list writes its entries one after the
other, so the last entry of a key wins; when the keys are distinct every entry
is found under its key.
-/

namespace Matcher.Foundation

universe u v w

variable {α : Type u} {κ : Type v} {β : Type w} [DecidableEq κ] {value : α → β} {key : α → κ}
  {items : List α} {index : κ}

def indexBy (key : α → κ) (value : α → β) (items : List α) : κ → Option β :=
  items.foldl
    (fun map item => Function.update map (key item) (some (value item)))
    fun _ => none

theorem indexBy_append_singleton (key : α → κ) (value : α → β) (items : List α) (item : α) :
    indexBy key value (items ++ [item]) =
      Function.update (indexBy key value items) (key item) (some (value item)) := by
  simp [indexBy]

theorem indexBy_eq_some {found : β} (h : indexBy key value items index = some found) :
    ∃ item ∈ items, key item = index ∧ value item = found := by
  induction items using List.reverseRecOn with
  | nil => cases h
  | append_singleton _ item ih =>
    rw [indexBy_append_singleton, Function.update_apply] at h
    split at h
    case isTrue hindex => exact ⟨item, by simp, hindex.symm, Option.some.inj h⟩
    case isFalse hindex =>
      obtain ⟨other, hother, hkey⟩ := ih h
      exact ⟨other, List.mem_append_left _ hother, hkey⟩

theorem indexBy_isSome_iff :
    (indexBy key value items index).isSome ↔ index ∈ items.map key := by
  induction items using List.reverseRecOn with
  | nil => simp [indexBy]
  | append_singleton _ _ ih =>
    rw [indexBy_append_singleton, Function.update_apply, List.map_append, List.mem_append]
    split
    case isTrue hindex => simp [hindex]
    case isFalse hindex =>
      rw [ih]
      simp [hindex]

theorem indexBy_of_mem (hkeys : (items.map key).Nodup) {item : α} (hitem : item ∈ items) :
    indexBy key value items (key item) = some (value item) := by
  have hsome : (indexBy key value items (key item)).isSome :=
    indexBy_isSome_iff.mpr (List.mem_map_of_mem hitem)
  obtain ⟨found, hfound⟩ := Option.isSome_iff_exists.mp hsome
  obtain ⟨other, hother, hkey, hvalue⟩ := indexBy_eq_some hfound
  rw [hfound, ← hvalue, List.inj_on_of_nodup_map hkeys hother hitem hkey]

end Matcher.Foundation
