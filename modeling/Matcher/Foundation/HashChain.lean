import Mathlib.Data.List.Forall2
import Mathlib.Data.List.Induction

/-!
# Hash chains

Each item of a chain names the hash of the item before it, and its own hash seals
its content together with that name.  When equal hashes of sealed items mean equal
names and equal content, the last hash of a chain determines all of it.
-/

namespace Matcher.Foundation

universe u v

variable {α : Type u} {η : Type v} (prev hash : α → η) (Sealed : α → Prop) {start : η}

/-- The items are sealed, and each names the hash of the one before it. -/
def Chained : η → List α → Prop
  | _, [] => True
  | expected, item :: rest => prev item = expected ∧ Sealed item ∧ Chained (hash item) rest

def lastHash (start : η) (items : List α) : η :=
  (items.getLast?.map hash).getD start

@[simp] theorem lastHash_nil (start : η) : lastHash hash start [] = start := rfl

@[simp] theorem lastHash_append_singleton (start : η) (items : List α) (item : α) :
    lastHash hash start (items ++ [item]) = hash item := by
  simp [lastHash]

theorem lastHash_cons (start : η) (item : α) (rest : List α) :
    lastHash hash start (item :: rest) = lastHash hash (hash item) rest := by
  cases rest with
  | nil => rfl
  | cons next rest =>
    rw [lastHash, lastHash, List.getLast?_cons_cons,
      List.getLast?_eq_some_getLast (List.cons_ne_nil next rest)]
    rfl

variable {prev hash Sealed}

theorem chained_append_singleton {items : List α} {item : α} :
    Chained prev hash Sealed start (items ++ [item]) ↔
      Chained prev hash Sealed start items ∧
        prev item = lastHash hash start items ∧ Sealed item := by
  induction items generalizing start with
  | nil => simp [Chained]
  | cons _ _ ih => simp only [List.cons_append, Chained, ih, lastHash_cons, and_assoc]

/-- By induction from the end: the last hash determines what the last item names. -/
theorem Chained.agree {same : α → α → Prop} {first second : List α} {start' : η}
    (hfirst : Chained prev hash Sealed start first)
    (hsecond : Chained prev hash Sealed start' second)
    (hcommits : ∀ a ∈ first, ∀ b ∈ second, Sealed a → Sealed b →
      hash a = hash b → prev a = prev b ∧ same a b) (hlength : first.length = second.length)
    (hlast : lastHash hash start first = lastHash hash start' second) :
    List.Forall₂ (fun a b => hash a = hash b ∧ prev a = prev b ∧ same a b)
      first second := by
  induction first using List.reverseRecOn generalizing second with
  | nil =>
    rw [List.length_nil] at hlength
    rw [List.eq_nil_of_length_eq_zero hlength.symm]
    exact .nil
  | append_singleton _ a ih =>
    induction second using List.reverseRecOn with
    | nil => simp at hlength
    | append_singleton _ b =>
      rw [chained_append_singleton] at hfirst hsecond
      rw [lastHash_append_singleton, lastHash_append_singleton] at hlast
      obtain ⟨hfirst, hprevA, hsealedA⟩ := hfirst
      obtain ⟨hsecond, hprevB, hsealedB⟩ := hsecond
      obtain ⟨hprev, hsame⟩ := hcommits a (by simp) b (by simp) hsealedA hsealedB hlast
      have hrest := ih hfirst hsecond
        (fun x hx y hy => hcommits x (by simp [hx]) y (by simp [hy]))
        (by simpa using hlength) (by rw [← hprevA, ← hprevB, hprev])
      exact List.rel_append hrest (.cons ⟨hlast, hprev, hsame⟩ .nil)

end Matcher.Foundation
