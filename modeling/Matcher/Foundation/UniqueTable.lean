import Matcher.Foundation.Loop
import Matcher.Foundation.Table
import Mathlib.Data.List.Perm.Basic

/-!
# Tables with a unique index

Besides their keys the rows of a table have distinct entries in one index.  The
index is not deferrable: an update statement writes the rows that it selects one
after the other, in any order, and each of them is compared with the table as it
is then, half updated.
-/

namespace Matcher.Foundation

universe u v w

structure UniqueTable {κ : Type u} {ι : Type v} {ρ : Type w} (key : ρ → κ)
    (index : ρ → ι) extends Table key where
  unique : (rows.map index).Nodup

/-- The order in which a statement visits the rows that it selects. -/
structure VisitOrder (ρ : Type w) where
  visit : List ρ → List ρ
  perm : ∀ rows, (visit rows).Perm rows

namespace VisitOrder

def stored (ρ : Type w) : VisitOrder ρ := ⟨id, fun _ => List.Perm.refl _⟩

/-- The given row comes before all others. -/
def first {ρ : Type w} [DecidableEq ρ] (row : ρ) : VisitOrder ρ where
  visit := fun rows => if row ∈ rows then row :: rows.erase row else rows
  perm := by
    intro rows
    split_ifs with hrow
    · exact (List.perm_cons_erase hrow).symm
    · exact List.Perm.refl rows

theorem first_visit {ρ : Type w} [DecidableEq ρ] {row : ρ} {rows : List ρ} (h : row ∈ rows) :
    (first row).visit rows = row :: rows.erase row :=
  if_pos h

end VisitOrder

namespace UniqueTable

variable {κ : Type u} {ι : Type v} {ρ : Type w} {key : ρ → κ} {index : ρ → ι} {visited : List κ}
  {row : ρ}

theorem eq_of_index (table : UniqueTable key index) {first second : ρ} (hfirst : first ∈ table.rows)
    (hsecond : second ∈ table.rows) (hindex : index first = index second) : first = second :=
  List.inj_on_of_nodup_map table.unique hfirst hsecond hindex

theorem ext_rows {first second : UniqueTable key index} (h : first.rows = second.rows) :
    first = second := by
  obtain ⟨⟨rows, hkeys⟩, hunique⟩ := first
  obtain ⟨⟨rows', hkeys'⟩, hunique'⟩ := second
  change rows = rows' at h
  subst h
  rfl

variable [DecidableEq κ]

def overwrite (key : ρ → κ) (next row : ρ) : ρ :=
  if key row = key next then next else row

theorem overwrite_key (next row : ρ) : key (overwrite key next row) = key row := by
  unfold overwrite
  split_ifs with h
  · exact h.symm
  · rfl

theorem overwrite_unique (table : UniqueTable key index) {next : ρ}
    (h : ∀ row ∈ table.rows, key row ≠ key next → index row ≠ index next) :
    ((table.modify (overwrite key next) (overwrite_key next)).rows.map index).Nodup := by
  change ((table.rows.map (overwrite key next)).map index).Nodup
  rw [List.map_map]
  refine List.Nodup.map_on ?_ (List.Nodup.of_map _ table.nodup)
  intro first hfirst second hsecond hindex
  simp only [Function.comp_apply, overwrite] at hindex
  split_ifs at hindex with hold hnew hnew
  · exact table.eq_of_key hfirst hsecond (hold.trans hnew.symm)
  · exact absurd hindex.symm (h second hsecond hnew)
  · exact absurd hindex (h first hfirst hold)
  · exact table.eq_of_index hfirst hsecond hindex

variable [DecidableEq ι] {ε : Type w}

/-- One row is written, unless another row has its entry of the index. -/
def write (duplicate : ε) (table : UniqueTable key index) (next : ρ) :
    Except ε (UniqueTable key index) :=
  if h : ∀ row ∈ table.rows, key row ≠ key next → index row ≠ index next then
    .ok ⟨table.modify (overwrite key next) (overwrite_key next), table.overwrite_unique h⟩
  else .error duplicate

theorem write_eq_ok {duplicate : ε} {table table' : UniqueTable key index} {next : ρ} :
    write duplicate table next = .ok table' ↔
      (∀ row ∈ table.rows, key row ≠ key next → index row ≠ index next) ∧
        table'.rows = table.rows.map (overwrite key next) := by
  unfold write
  split_ifs with h
  · constructor
    · intro heq
      cases heq
      exact ⟨h, rfl⟩
    · rintro ⟨_, hrows⟩
      exact congrArg Except.ok (ext_rows hrows.symm)
  · constructor
    · intro heq
      cases heq
    · rintro ⟨hfree, _⟩
      exact absurd hfree h

/--
An update statement.  The rows that it selects and the values that it assigns are
those of the table before the statement.
-/
def update (duplicate : ε) (selects : ρ → Bool) (assign : ρ → Except ε ρ) (order : VisitOrder ρ)
    (table : UniqueTable key index) : Except ε (UniqueTable key index) :=
  (order.visit (table.rows.filter selects)).foldlM
    (fun current row => do
      let next ← assign row
      write duplicate current next)
    table

/-! ## A statement that succeeds in every order -/

section Succeeds

variable {duplicate : ε} {selects : ρ → Bool} {assign : ρ → Except ε ρ}
  {table : UniqueTable key index} {next : ρ → ρ}

/-- The selected rows get new values, distinct from each other's and from those of
the rows that the table has before. -/
structure Assigns (selects : ρ → Bool) (assign : ρ → Except ε ρ)
    (next : ρ → ρ) (table : UniqueTable key index) : Prop where
  assigned : ∀ row ∈ table.rows, selects row → assign row = .ok (next row)
  keeps : ∀ row ∈ table.rows, selects row → key (next row) = key row
  avoids_old : ∀ row ∈ table.rows, selects row → ∀ other ∈ table.rows,
    key other ≠ key row → index other ≠ index (next row)
  avoids_new : ∀ row ∈ table.rows, selects row → ∀ other ∈ table.rows,
    selects other → key other ≠ key row → index (next other) ≠ index (next row)

def partway (key : ρ → κ) (next : ρ → ρ) (visited : List κ) (row : ρ) : ρ :=
  if key row ∈ visited then next row else row

theorem partway_cons_self (next : ρ → ρ) (visited : List κ) (row : ρ) :
    partway key next (key row :: visited) row = next row :=
  if_pos List.mem_cons_self

theorem partway_cons_of_ne (next : ρ → ρ) {other : ρ} (h : key other ≠ key row) :
    partway key next (key row :: visited) other = partway key next visited other := by
  simp [partway, h]

omit [DecidableEq ι] in
theorem Assigns.key_partway (h : Assigns selects assign next table)
    (hrow : row ∈ table.rows) (hvisited : key row ∈ visited → selects row) :
    key (partway key next visited row) = key row := by
  unfold partway
  split_ifs with hdone
  · exact h.keeps row hrow (hvisited hdone)
  · rfl

section

variable (h : Assigns selects assign next table)

include h

theorem Assigns.write (duplicate : ε) (hrow : row ∈ table.rows) (hselected : selects row)
    (hvisited : ∀ other ∈ table.rows, key other ∈ visited → selects other)
    {current : UniqueTable key index}
    (hcurrent : current.rows = table.rows.map (partway key next visited)) :
    ∃ written, write duplicate current (next row) = .ok written ∧
      written.rows = table.rows.map (partway key next (key row :: visited)) := by
  have hfree : ∀ other ∈ current.rows, key other ≠ key (next row) →
      index other ≠ index (next row) := by
    rw [hcurrent, h.keeps row hrow hselected]
    intro other hother hkey
    obtain ⟨old, hold, rfl⟩ := List.mem_map.mp hother
    unfold partway at hkey ⊢
    split_ifs at hkey ⊢ with hdone
    · have hchosen := hvisited old hold hdone
      rw [h.keeps old hold hchosen] at hkey
      exact h.avoids_new row hrow hselected old hold hchosen hkey
    · exact h.avoids_old row hrow hselected old hold hkey
  obtain ⟨written, hwritten⟩ : ∃ written,
      UniqueTable.write duplicate current (next row) = .ok written :=
    ⟨_, dif_pos hfree⟩
  refine ⟨written, hwritten, ?_⟩
  rw [(write_eq_ok.mp hwritten).2, hcurrent, List.map_map]
  refine List.map_congr_left ?_
  intro old hold
  rw [Function.comp_apply, overwrite, h.keeps row hrow hselected,
    h.key_partway hold (hvisited old hold)]
  by_cases hkey : key old = key row
  · obtain rfl := table.eq_of_key hold hrow hkey
    rw [partway_cons_self, if_pos rfl]
  · rw [if_neg hkey, partway_cons_of_ne next hkey]

theorem Assigns.visit (duplicate : ε) (pending : List ρ) :
    ∀ (visited : List κ) (current : UniqueTable key index),
      (∀ row ∈ pending, row ∈ table.rows ∧ selects row) →
      (∀ row ∈ table.rows, key row ∈ visited → selects row) →
      current.rows = table.rows.map (partway key next visited) →
      ∃ table', pending.foldlM
          (fun current row => do
            let next ← assign row
            UniqueTable.write duplicate current next) current = .ok table' ∧
        table'.rows = table.rows.map (partway key next ((pending.map key).reverse ++ visited)) := by
  induction pending with
  | nil =>
    intro visited current _ _ hcurrent
    exact ⟨current, rfl, hcurrent⟩
  | cons row _ ih =>
    intro visited current hpending hvisited hcurrent
    obtain ⟨hrow, hselected⟩ := hpending row List.mem_cons_self
    obtain ⟨written, hwritten, hrows⟩ := h.write duplicate hrow hselected hvisited hcurrent
    obtain ⟨table', hrest, hfinal⟩ := ih (key row :: visited) written
      (fun other hother => hpending other (List.mem_cons_of_mem _ hother))
      (by
        intro other hother hkey
        rcases List.mem_cons.mp hkey with hkey | hkey
        · rw [table.eq_of_key hother hrow hkey]
          exact hselected
        · exact hvisited other hother hkey)
      hrows
    refine ⟨table', ?_, ?_⟩
    · rw [List.foldlM_cons, h.assigned row hrow hselected]
      change (UniqueTable.write duplicate current (next row) >>= _) = _
      rw [hwritten]
      exact hrest
    · rw [hfinal]
      simp [List.append_assoc]

/-- In whichever order the rows are visited, the selected ones end up with their
new values. -/
theorem Assigns.update (duplicate : ε) (order : VisitOrder ρ) :
    ∃ table', update duplicate selects assign order table = .ok table' ∧
      table'.rows = table.rows.map fun row => if selects row then next row else row := by
  have hperm := order.perm (table.rows.filter selects)
  obtain ⟨table', hok, hrows⟩ := h.visit duplicate
    (order.visit (table.rows.filter selects)) [] table
    (fun row hrow => by simpa using List.mem_filter.mp (hperm.mem_iff.mp hrow))
    (fun row _ hkey => absurd hkey List.not_mem_nil)
    (List.map_id'' (fun row => if_neg List.not_mem_nil) table.rows).symm
  refine ⟨table', hok, hrows.trans (List.map_congr_left ?_)⟩
  intro row hrow
  have hvisited : key row ∈ ((order.visit (table.rows.filter selects)).map
      key).reverse ++ [] ↔ selects row := by
    rw [List.append_nil, List.mem_reverse, List.mem_map]
    constructor
    · rintro ⟨other, hother, hkey⟩
      obtain ⟨hstored, hselected⟩ := List.mem_filter.mp (hperm.mem_iff.mp hother)
      rwa [← table.eq_of_key hstored hrow hkey]
    · intro hselected
      exact ⟨row, hperm.mem_iff.mpr (List.mem_filter.mpr ⟨hrow, hselected⟩), rfl⟩
  unfold partway
  exact if_congr hvisited rfl rfl

end

theorem update_first [DecidableEq ρ]
    (h : ∀ order, ∃ table', UniqueTable.update duplicate selects assign order table = .ok table')
    (hrow : row ∈ table.rows) (hselected : selects row) :
    ∃ next, assign row = .ok next ∧
      ∀ other ∈ table.rows, key other ≠ key next → index other ≠ index next := by
  obtain ⟨table', hok⟩ := h (.first row)
  unfold UniqueTable.update at hok
  rw [VisitOrder.first_visit (List.mem_filter.mpr ⟨hrow, hselected⟩)] at hok
  obtain ⟨current, hfirst, _⟩ := foldlM_cons_eq_ok.mp hok
  obtain ⟨next, hassign, hwrite⟩ := bind_eq_ok.mp hfirst
  exact ⟨next, hassign, (write_eq_ok.mp hwrite).1⟩

end Succeeds

end UniqueTable

end Matcher.Foundation
