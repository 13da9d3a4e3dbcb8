import Mathlib.Data.List.Forall2
import Mathlib.Data.List.Basic

/-!
# Fields joined by a separator

A field may contain the separator itself, so the joined text does not determine
the fields in general.  It does once the number of separators in each field but
the last is known.
-/

namespace Matcher.Foundation

universe u

variable {α : Type u}

def joined (separator : α) (fields : List (List α)) (last : List α) : List α :=
  fields.foldr (fun field rest => field ++ separator :: rest) last

variable [DecidableEq α] {separator : α}

theorem append_separator_inj {first second rest rest' : List α}
    (hcount : first.count separator = second.count separator)
    (h : first ++ separator :: rest = second ++ separator :: rest') :
    first = second ∧ rest = rest' := by
  induction first generalizing second with
  | nil =>
    cases second with
    | nil => exact ⟨rfl, (List.cons.inj h).2⟩
    | cons =>
      obtain ⟨rfl, -⟩ := List.cons.inj h
      simp at hcount
  | cons _ _ ih =>
    cases second with
    | nil =>
      obtain ⟨rfl, -⟩ := List.cons.inj h
      simp at hcount
    | cons =>
      obtain ⟨rfl, htail⟩ := List.cons.inj h
      rw [List.count_cons, List.count_cons] at hcount
      obtain ⟨rfl, hrest⟩ := ih (Nat.add_right_cancel hcount) htail
      exact ⟨rfl, hrest⟩

theorem joined_inj {fields fields' : List (List α)} {last last' : List α}
    (hcount : List.Forall₂ (fun field other => field.count separator = other.count separator)
      fields fields') (h : joined separator fields last = joined separator fields' last') :
    fields = fields' ∧ last = last' := by
  induction hcount with
  | nil => exact ⟨rfl, h⟩
  | cons hhead _ ih =>
    obtain ⟨rfl, hrest⟩ := append_separator_inj hhead h
    obtain ⟨rfl, rfl⟩ := ih hrest
    exact ⟨rfl, rfl⟩

end Matcher.Foundation
