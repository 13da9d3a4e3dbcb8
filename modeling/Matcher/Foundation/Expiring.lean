import Mathlib.Algebra.Order.Ring.Int

/-!
# Values that expire

A slot holds a value until an instant, as one key of a cache with expiry does.  A
write sets the value and the instant whatever the slot holds, and a conditional
write only takes place when the slot has no live value.
-/

namespace Matcher.Foundation

universe u

structure Cell (α : Type u) where
  value : α
  expiresAt : ℤ
deriving DecidableEq, Repr

abbrev Slot (α : Type u) := Option (Cell α)

namespace Slot

variable {α : Type u} {p : α → Prop} {deadline now : ℤ} {slot : Slot α}

def get (slot : Slot α) (now : ℤ) : Option α :=
  match slot with
  | none => none
  | some cell => if now < cell.expiresAt then some cell.value else none

def set (now ttl : ℤ) (value : α) : Slot α := some ⟨value, now + ttl⟩

def setNX (slot : Slot α) (now ttl : ℤ) (value : α) : Bool × Slot α :=
  match slot.get now with
  | none => (true, set now ttl value)
  | some _ => (false, slot)

/-- A value that satisfies the predicate is held at least until the deadline. -/
def HoldsUntil (slot : Slot α) (p : α → Prop) (deadline : ℤ) : Prop :=
  ∃ cell ∈ slot, p cell.value ∧ deadline ≤ cell.expiresAt

theorem holdsUntil_set {value : α} (h : p value) {ttl : ℤ} (hdeadline : deadline ≤ now + ttl) :
    (set now ttl value).HoldsUntil p deadline :=
  ⟨_, rfl, h, hdeadline⟩

theorem HoldsUntil.get (h : slot.HoldsUntil p deadline) (hnow : now < deadline) :
    ∃ value, slot.get now = some value ∧ p value := by
  obtain ⟨cell, hcell, hp, hexpires⟩ := h
  cases hcell
  exact ⟨cell.value, if_pos (hnow.trans_le hexpires), hp⟩

theorem HoldsUntil.setNX (h : slot.HoldsUntil p deadline) (hnow : now < deadline) (ttl : ℤ)
    (value : α) : slot.setNX now ttl value = (false, slot) := by
  obtain ⟨live, hlive, -⟩ := h.get hnow
  rw [Slot.setNX, hlive]

end Slot

end Matcher.Foundation
