import Mathlib.Data.List.Nodup

/-!
# Tables with a primary key

The rows of a table have distinct keys; inserting a key twice is refused, and an
update keeps the key of each row.
-/

namespace Matcher.Foundation

universe u v

structure Table {κ : Type u} {ρ : Type v} (key : ρ → κ) where
  rows : List ρ
  nodup : (rows.map key).Nodup

namespace Table

variable {κ : Type u} {ρ : Type v} {key : ρ → κ} {table : Table key} {f : ρ → ρ}

def empty (key : ρ → κ) : Table key := ⟨[], List.nodup_nil⟩

theorem eq_of_key (table : Table key) {first second : ρ} (hfirst : first ∈ table.rows)
    (hsecond : second ∈ table.rows) (hkey : key first = key second) : first = second :=
  List.inj_on_of_nodup_map table.nodup hfirst hsecond hkey

def modify (table : Table key) (f : ρ → ρ) (hkey : ∀ row, key (f row) = key row) : Table key where
  rows := table.rows.map f
  nodup := by
    rw [List.map_map, show key ∘ f = key from funext hkey]
    exact table.nodup

theorem mem_modify (hkey : ∀ row, key (f row) = key row) {row : ρ} :
    row ∈ (table.modify f hkey).rows ↔ ∃ old ∈ table.rows, f old = row :=
  List.mem_map

theorem modify_of_eq (hkey : ∀ row, key (f row) = key row) (h : ∀ row, f row = row) :
    table.modify f hkey = table := by
  have hid : f = id := funext h
  cases table
  simp only [modify, hid, List.map_id]

variable [DecidableEq κ]

def find? (table : Table key) (index : κ) : Option ρ :=
  table.rows.find? fun row => key row = index

theorem find?_eq_some {index : κ} {row : ρ} :
    table.find? index = some row ↔ row ∈ table.rows ∧ key row = index := by
  constructor
  · intro h
    exact ⟨List.mem_of_find?_eq_some h, by simpa using List.find?_some h⟩
  · rintro ⟨hrow, rfl⟩
    have hsome : (table.find? (key row)).isSome := by
      rw [find?, List.find?_isSome]
      exact ⟨row, hrow, by simp⟩
    obtain ⟨found, hfound⟩ := Option.isSome_iff_exists.mp hsome
    have hkey : key found = key row := by simpa using List.find?_some hfound
    rw [hfound, table.eq_of_key (List.mem_of_find?_eq_some hfound) hrow hkey]

def insertAll (table : Table key) (added : List ρ) : Option (Table key) :=
  if h : ((table.rows ++ added).map key).Nodup then
    some ⟨table.rows ++ added, h⟩
  else none

theorem insertAll_nil (table : Table key) : table.insertAll [] = some table := by
  unfold insertAll
  simp only [List.append_nil, table.nodup, ↓reduceDIte]

theorem insertAll_eq_some {table' : Table key} {added : List ρ}
    (h : table.insertAll added = some table') :
    table'.rows = table.rows ++ added ∧ (added.map key).Nodup ∧
      ∀ row ∈ added, ∀ old ∈ table.rows, key old ≠ key row := by
  unfold insertAll at h
  split at h
  case isTrue hnodup =>
    cases h
    rw [List.map_append] at hnodup
    refine ⟨rfl, hnodup.of_append_right, ?_⟩
    intro row hrow old hold hkey
    exact List.disjoint_of_nodup_append hnodup (List.mem_map_of_mem hold)
      (by rw [hkey]; exact List.mem_map_of_mem hrow)
  case isFalse => cases h

end Table

end Matcher.Foundation
