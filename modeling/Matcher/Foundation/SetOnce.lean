import Mathlib.Data.Finset.Basic
import Mathlib.Data.Finset.Lattice.Lemmas
import Matcher.Foundation.IndexedMap

/-!
# Keys that are set once

A store of keys in which setting a key reports whether it was new.  When a list
of keys is set in order and the reports are collected in a map, the report of a
key's last mention is the one that is kept, so a key is reported as new exactly
when it was absent and is mentioned once.
-/

namespace Matcher.Foundation

universe u

variable {κ : Type u} [DecidableEq κ] (store : Finset κ)

def setOnce (key : κ) : Bool × Finset κ :=
  (key ∉ store, insert key store)

def setEachOnce (store : Finset κ) : List κ → List Bool × Finset κ
  | [] => ([], store)
  | key :: rest =>
    let (isNew, store) := setOnce store key
    let (others, store) := setEachOnce store rest
    (isNew :: others, store)

@[simp] theorem setEachOnce_nil : setEachOnce store [] = ([], store) := rfl

@[simp] theorem setEachOnce_cons (key : κ) (rest : List κ) :
    setEachOnce store (key :: rest) =
      (decide (key ∉ store) :: (setEachOnce (insert key store) rest).1,
        (setEachOnce (insert key store) rest).2) := rfl

@[simp] theorem setEachOnce_length (keys : List κ) :
    (setEachOnce store keys).1.length = keys.length := by
  induction keys generalizing store with
  | nil => rfl
  | cons _ _ ih => simp [ih]

theorem setEachOnce_store (keys : List κ) : (setEachOnce store keys).2 = store ∪ keys.toFinset := by
  induction keys generalizing store with
  | nil => simp
  | cons _ _ ih =>
    rw [setEachOnce_cons, ih, List.toFinset_cons, Finset.insert_union, Finset.union_insert]

theorem setEachOnce_append_singleton (keys : List κ) (key : κ) :
    (setEachOnce store (keys ++ [key])).1 =
      (setEachOnce store keys).1 ++ [decide (key ∉ store ∪ keys.toFinset)] := by
  induction keys generalizing store with
  | nil => simp
  | cons _ _ ih =>
    rw [List.cons_append, setEachOnce_cons, setEachOnce_cons, ih,
      List.toFinset_cons, Finset.insert_union, Finset.union_insert]
    rfl

def reportByItem {α : Type u} [DecidableEq α] (items : List α) (reports : List Bool) :
    α → Option Bool :=
  indexBy Prod.fst Prod.snd (items.zip reports)

theorem reportByItem_setEachOnce {α : Type u} [DecidableEq α] {key : α → κ}
    (hkey : Function.Injective key) (store : Finset κ) (items : List α) (item : α) :
    reportByItem items (setEachOnce store (items.map key)).1 item = some true ↔
      key item ∉ store ∧ items.count item = 1 := by
  -- the map keeps the last report, so the list is taken apart at its end
  induction items using List.reverseRecOn with
  | nil => simp [reportByItem, indexBy]
  | append_singleton items last ih =>
    have hlength : items.length = (setEachOnce store (items.map key)).1.length := by simp
    rw [List.map_append, List.map_cons, List.map_nil, setEachOnce_append_singleton, reportByItem,
      List.zip_append hlength, List.zip_cons_cons, List.zip_nil_right, indexBy_append_singleton,
      Function.update_apply]
    by_cases hitem : item = last
    · subst hitem
      have hcount : items.count item = 0 ↔ item ∉ items := List.count_eq_zero
      simp only [↓reduceIte, Option.some.injEq, decide_eq_true_eq, Finset.mem_union,
        List.mem_toFinset, not_or, List.mem_map_of_injective hkey, List.count_append,
        List.count_singleton_self, Nat.add_eq_right, hcount]
    · have hlast : [last].count item = 0 := List.count_eq_zero.mpr (by simpa using hitem)
      rw [if_neg hitem, List.count_append, hlast, Nat.add_zero]
      exact ih

/--
A store that grows in two stages.  What is released of the first stage and what
is released of the second can be looked at one after the other.
-/
theorem sdiff_union_subset_iff {before middle after first second : Finset κ}
    (hbefore : before ⊆ middle) (hmiddle : middle ⊆ after)
    (hfirst : first ⊆ middle) (hsecond : ∀ key ∈ second, key ∉ middle) :
    after \ (first ∪ second) ⊆ before ↔ middle \ first ⊆ before ∧ after \ second ⊆ middle := by
  simp only [Finset.subset_iff, Finset.mem_sdiff, Finset.mem_union, not_or]
  constructor
  · intro h
    constructor
    · rintro key ⟨hkey, hkept⟩
      exact h ⟨hmiddle hkey, hkept, fun hnew => hsecond key hnew hkey⟩
    · rintro key ⟨hkey, hkept⟩
      by_cases hreleased : key ∈ first
      · exact hfirst hreleased
      · exact hbefore (h ⟨hkey, hreleased, hkept⟩)
  · rintro ⟨hstage, hlater⟩ key ⟨hkey, hkept, hnew⟩
    exact hstage ⟨hlater ⟨hkey, hnew⟩, hkept⟩

end Matcher.Foundation
