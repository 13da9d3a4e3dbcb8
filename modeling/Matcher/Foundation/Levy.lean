import Mathlib.Algebra.Group.Subgroup.Defs
import Mathlib.Algebra.Order.Group.MinMax
import Mathlib.Algebra.Order.Ring.Defs
import Mathlib.Tactic.Abel
import Mathlib.Tactic.Linarith

/-!
# Levies taken in cascade

A levy takes from a base an amount that lies on a grid.  In a cascade every levy
is taken from what the earlier ones left, and never from less than nothing.  A
larger base need not leave a larger base for the next levy, so the comparison of
two cascades is carried by the sum of what is left and what was taken.
-/

namespace Matcher.Foundation

universe u

variable {α : Type u} [AddCommGroup α] [LinearOrder α] {levies : List (α → α)} {levy charge : α → α}
  {grid : AddSubgroup α} {smaller larger : α}

/-- A levy on the grid.  The last condition says that it grows no faster than its
base, seen through the grid. -/
structure Levy (grid : AddSubgroup α) (levy : α → α) : Prop where
  mem : ∀ base, 0 ≤ base → levy base ∈ grid
  nonneg : ∀ base, 0 ≤ base → 0 ≤ levy base
  mono : ∀ smaller larger, 0 ≤ smaller → smaller ≤ larger → levy smaller ≤ levy larger
  absorbs : ∀ base raised shift, 0 ≤ base → base ≤ raised →
    shift ∈ grid → raised < base + shift → levy raised ≤ levy base + shift

/-- An amount that grows with its base, and by no more than the base does. -/
structure Charge (charge : α → α) : Prop where
  nonneg : ∀ base, 0 ≤ base → 0 ≤ charge base
  mono : ∀ smaller larger, 0 ≤ smaller → smaller ≤ larger → charge smaller ≤ charge larger
  nonexpansive : ∀ smaller larger, 0 ≤ smaller → smaller ≤ larger →
    charge larger - charge smaller ≤ larger - smaller

private theorem beyond_mono [IsOrderedAddMonoid α] (width : α) (hle : smaller ≤ larger) :
    smaller - min smaller width ≤ larger - min larger width := by
  rcases le_total smaller width with hwithin | hbeyond
  · rw [min_eq_left hwithin, sub_self]
    exact sub_nonneg.mpr (min_le_left larger width)
  · rw [min_eq_right hbeyond, min_eq_right (hbeyond.trans hle)]
    exact sub_le_sub_right hle width

namespace Charge

theorem congr {other : α → α} (h : Charge charge)
    (heq : ∀ base, 0 ≤ base → other base = charge base) : Charge other where
  nonneg base hbase := by
    rw [heq base hbase]
    exact h.nonneg base hbase
  mono smaller larger hsmaller hle := by
    rw [heq smaller hsmaller, heq larger (hsmaller.trans hle)]
    exact h.mono smaller larger hsmaller hle
  nonexpansive smaller larger hsmaller hle := by
    rw [heq smaller hsmaller, heq larger (hsmaller.trans hle)]
    exact h.nonexpansive smaller larger hsmaller hle

theorem const [IsOrderedAddMonoid α] {amount : α} (h : 0 ≤ amount) :
    Charge fun _ : α => amount where
  nonneg _ _ := h
  mono _ _ _ _ := le_rfl
  nonexpansive _ _ _ hle := by
    rw [sub_self]
    exact sub_nonneg.mpr hle

theorem proportional {β : Type u} [Ring β] [LinearOrder β]
    [IsStrictOrderedRing β] {rate : β} (hlower : 0 ≤ rate) (hupper : rate ≤ 1) :
    Charge fun base => base * rate where
  nonneg _ hbase := mul_nonneg hbase hlower
  mono _ _ _ hle := mul_le_mul_of_nonneg_right hle hlower
  nonexpansive _ _ _ hle := by
    rw [← sub_mul]
    exact mul_le_of_le_one_right (sub_nonneg.mpr hle) hupper

theorem bracket [IsOrderedAddMonoid α] {first rest : α → α} {width : α}
    (hwidth : 0 ≤ width) (hfirst : Charge first) (hrest : Charge rest) :
    Charge fun base =>
      first (min base width) + rest (base - min base width) where
  nonneg base hbase :=
    add_nonneg (hfirst.nonneg _ (le_min hbase hwidth))
      (hrest.nonneg _ (sub_nonneg.mpr (min_le_left base width)))
  mono smaller larger hsmaller hle :=
    add_le_add
      (hfirst.mono _ _ (le_min hsmaller hwidth) (min_le_min_right width hle))
      (hrest.mono _ _ (sub_nonneg.mpr (min_le_left smaller width)) (beyond_mono width hle))
  nonexpansive smaller larger hsmaller hle := by
    have hinside := hfirst.nonexpansive _ _ (le_min hsmaller hwidth) (min_le_min_right width hle)
    have hbeyond := hrest.nonexpansive _ _
      (sub_nonneg.mpr (min_le_left smaller width)) (beyond_mono width hle)
    calc first (min larger width) + rest (larger - min larger width) -
          (first (min smaller width) + rest (smaller - min smaller width))
        = (first (min larger width) - first (min smaller width)) +
            (rest (larger - min larger width) - rest (smaller - min smaller width)) := by abel
      _ ≤ (min larger width - min smaller width) +
            (larger - min larger width - (smaller - min smaller width)) :=
          add_le_add hinside hbeyond
      _ = larger - smaller := by abel

end Charge

theorem Levy.of_charge [IsOrderedAddMonoid α] {round : α → α}
    (hround : Levy grid round) (hcharge : Charge charge) :
    Levy grid fun base => round (charge base) where
  mem base hbase := hround.mem _ (hcharge.nonneg base hbase)
  nonneg base hbase := hround.nonneg _ (hcharge.nonneg base hbase)
  mono smaller larger hsmaller hle :=
    hround.mono _ _ (hcharge.nonneg smaller hsmaller) (hcharge.mono smaller larger hsmaller hle)
  absorbs base raised shift hbase hle hshift hlt := by
    refine hround.absorbs _ _ shift (hcharge.nonneg base hbase)
      (hcharge.mono base raised hbase hle) hshift ?_
    have hgrowth := hcharge.nonexpansive base raised hbase hle
    have hless : charge raised - charge base < shift :=
      hgrowth.trans_lt (sub_lt_iff_lt_add'.mpr hlt)
    exact sub_lt_iff_lt_add'.mp hless

@[ext]
structure Cascade (α : Type u) where
  base : α
  taken : α

namespace Cascade

def take (levy : α → α) (state : Cascade α) : Cascade α where
  base := max 0 (state.base - levy state.base)
  taken := state.taken + levy state.base

def run (levies : List (α → α)) (state : Cascade α) : Cascade α :=
  levies.foldl (fun state levy => take levy state) state

@[simp] theorem run_nil (state : Cascade α) : run [] state = state :=
  rfl

@[simp] theorem run_cons (levy : α → α) (rest : List (α → α)) (state : Cascade α) :
    run (levy :: rest) state = run rest (take levy state) :=
  rfl

theorem take_base_nonneg (levy : α → α) (state : Cascade α) : 0 ≤ (take levy state).base :=
  le_max_left _ _

/-- The two cascades agree, or the second took at least as much and has more in
all. -/
def Behind (grid : AddSubgroup α) (first second : Cascade α) : Prop :=
  first = second ∨
    first.taken ≤ second.taken ∧
      second.taken - first.taken ∈ grid ∧
      first.base + first.taken < second.base + second.taken

theorem Behind.taken_le {first second : Cascade α}
    (h : Behind grid first second) : first.taken ≤ second.taken := by
  rcases h with rfl | ⟨htaken, -⟩
  · exact le_rfl
  · exact htaken

section

variable [IsOrderedAddMonoid α] {second first state : Cascade α}

theorem take_sum (levy : α → α) (state : Cascade α) :
    (take levy state).base + (take levy state).taken =
      max (take levy state).taken (state.base + state.taken) := by
  have hrest : state.base - levy state.base +
      (state.taken + levy state.base) = state.base + state.taken := by
    abel
  simp only [take]
  rw [max_add, zero_add, hrest]

variable {grid : AddSubgroup α}

theorem taken_le_run (hlevies : ∀ levy ∈ levies, Levy grid levy)
    (hbase : 0 ≤ state.base) : state.taken ≤ (run levies state).taken := by
  induction levies generalizing state with
  | nil => exact le_rfl
  | cons levy _ ih =>
    have hfee := (hlevies levy (by simp)).nonneg state.base hbase
    have hrest := ih (fun other h => hlevies other (by simp [h])) (take_base_nonneg levy state)
    exact (le_add_of_nonneg_right hfee).trans hrest

theorem run_base (hlevies : ∀ levy ∈ levies, Levy grid levy) (hbase : 0 ≤ state.base) :
    (run levies state).base = max 0 (state.base + state.taken - (run levies state).taken) := by
  induction levies generalizing state with
  | nil => simp [max_eq_right hbase]
  | cons levy rest ih =>
    have hrest : ∀ other ∈ rest, Levy grid other := fun other h => hlevies other (by simp [h])
    have htaken := taken_le_run hrest (take_base_nonneg levy state)
    rw [run_cons, ih hrest (take_base_nonneg levy state), take_sum,
      ← max_sub_sub_right, ← max_assoc, max_eq_left (sub_nonpos.mpr htaken)]

private theorem taken_le_of_take (hlevy : Levy grid levy)
    (hfirst : 0 ≤ first.base) (hsecond : 0 ≤ second.base) (htaken : first.taken ≤ second.taken)
    (hgrid : second.taken - first.taken ∈ grid)
    (hsum : first.base + first.taken < second.base + second.taken) :
    (take levy first).taken ≤ (take levy second).taken := by
  rcases le_total first.base second.base with hbase | hbase
  · exact add_le_add htaken (hlevy.mono _ _ hfirst hbase)
  · have hlt : first.base < second.base + (second.taken - first.taken) := by
      rw [← add_sub_assoc]
      exact lt_sub_iff_add_lt.mpr hsum
    have hfee := hlevy.absorbs _ _ _ hsecond hbase hgrid hlt
    calc first.taken + levy first.base
        ≤ first.taken + (levy second.base + (second.taken - first.taken)) := by
          exact add_le_add_right hfee _
      _ = second.taken + levy second.base := by abel

private theorem take_eq_of_sum_eq (htaken : (take levy first).taken ≤ (take levy second).taken)
    (hsum : first.base + first.taken < second.base + second.taken)
    (heq : (take levy first).base + (take levy first).taken =
      (take levy second).base + (take levy second).taken) : take levy first = take levy second := by
  have hfirst := take_sum levy first
  have hsecond := take_sum levy second
  have hlarger : second.base + second.taken ≤
      max (take levy first).taken (first.base + first.taken) := by
    rw [← hfirst, heq, hsecond]
    exact le_max_right _ _
  have hspent : first.base + first.taken < (take levy first).taken := by
    rcases le_max_iff.mp hlarger with h | h
    · exact hsum.trans_le h
    · exact absurd h (not_le.mpr hsum)
  rw [max_eq_left hspent.le] at hfirst
  have hsame : (take levy first).taken = (take levy second).taken := by
    refine le_antisymm htaken ?_
    rw [← hfirst, heq, hsecond]
    exact le_max_left _ _
  refine Cascade.ext ?_ hsame
  exact add_right_cancel (heq.trans (by rw [hsame]))

theorem Behind.take (hlevy : Levy grid levy)
    (h : Behind grid first second) (hfirst : 0 ≤ first.base) (hsecond : 0 ≤ second.base) :
    Behind grid (take levy first) (take levy second) := by
  rcases h with rfl | ⟨htaken, hgrid, hsum⟩
  · exact .inl rfl
  have htaken' := taken_le_of_take hlevy hfirst hsecond htaken hgrid hsum
  have hgrid' : (Cascade.take levy second).taken - (Cascade.take levy first).taken ∈ grid := by
    have hsplit : (Cascade.take levy second).taken -
        (Cascade.take levy first).taken =
          second.taken - first.taken + (levy second.base - levy first.base) := by
      simp only [Cascade.take]
      abel
    rw [hsplit]
    exact grid.add_mem hgrid (grid.sub_mem (hlevy.mem _ hsecond) (hlevy.mem _ hfirst))
  have hle : (Cascade.take levy first).base + (Cascade.take levy first).taken ≤
      (Cascade.take levy second).base + (Cascade.take levy second).taken := by
    rw [take_sum, take_sum]
    exact max_le_max htaken' hsum.le
  rcases hle.lt_or_eq with hlt | heq
  · exact .inr ⟨htaken', hgrid', hlt⟩
  · exact .inl (take_eq_of_sum_eq htaken' hsum heq)

theorem Behind.run (hlevies : ∀ levy ∈ levies, Levy grid levy) (h : Behind grid first second)
    (hfirst : 0 ≤ first.base) (hsecond : 0 ≤ second.base) :
    Behind grid (run levies first) (run levies second) := by
  induction levies generalizing first second with
  | nil => exact h
  | cons levy _ ih =>
    exact ih (fun other hother => hlevies other (by simp [hother]))
      (h.take (hlevies levy (by simp)) hfirst hsecond)
      (take_base_nonneg levy first) (take_base_nonneg levy second)

theorem run_taken_mono (hlevies : ∀ levy ∈ levies, Levy grid levy)
    (hsmaller : 0 ≤ smaller) (hle : smaller ≤ larger) :
    (run levies ⟨smaller, 0⟩).taken ≤ (run levies ⟨larger, 0⟩).taken := by
  have hstart : Behind grid ⟨smaller, 0⟩ ⟨larger, 0⟩ := by
    rcases hle.eq_or_lt with rfl | hlt
    · exact .inl rfl
    · exact .inr ⟨le_rfl, by simp, by simpa using hlt⟩
  exact (hstart.run hlevies hsmaller (hsmaller.trans hle)).taken_le

end

end Cascade

end Matcher.Foundation
