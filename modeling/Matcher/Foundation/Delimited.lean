import Mathlib.Data.List.Basic

/-!
# Delimited codes

A code is delimited when a word can be cut off the front of a longer text.  Some
codes are so only in front of certain texts: the digits of a number end where a
byte follows that is no digit.  A list of words is delimited by a stop that no word
starts with, or by the end of the text.
-/

namespace Matcher.Foundation

universe u v w

variable {α : Type u} {β : Type v} {γ : Type w}

/-- In front of what may follow it, a word gives its value and its end. -/
def Delimited (follows : List β → Prop) (word : α → List β) : Prop :=
  ∀ ⦃value other rest rest'⦄, follows rest → follows rest' →
    word value ++ rest = word other ++ rest' → value = other ∧ rest = rest'

namespace Delimited

variable {follows : List β → Prop} {word : α → List β}

theorem injective (h : Delimited follows word) (hnil : follows []) : Function.Injective word :=
  fun _ _ heq => (h hnil hnil (congrArg (· ++ []) heq)).1

theorem comp {code : γ → α} (h : Delimited follows word) (hcode : Function.Injective code) :
    Delimited follows fun value => word (code value) := by
  intro value other rest rest' hrest hrest' heq
  obtain ⟨hvalue, htail⟩ := h hrest hrest' heq
  exact ⟨hcode hvalue, htail⟩

theorem cons (h : Delimited follows word) (start : β) :
    Delimited follows fun value => start :: word value := by
  intro value other rest rest' hrest hrest' heq
  exact h hrest hrest' (List.cons.inj heq).2

theorem append {others : List β → Prop} {next : γ → List β}
    (h : Delimited follows word) (hnext : Delimited others next)
    (hfollows : ∀ value rest, others rest → follows (next value ++ rest)) :
    Delimited others fun pair : α × γ => word pair.1 ++ next pair.2 := by
  intro value other rest rest' hrest hrest' heq
  simp only [List.append_assoc] at heq
  obtain ⟨hfirst, heq⟩ := h (hfollows value.2 rest hrest) (hfollows other.2 rest' hrest') heq
  obtain ⟨hsecond, htail⟩ := hnext hrest hrest' heq
  exact ⟨Prod.ext hfirst hsecond, htail⟩

theorem flatMap_stop {stop : β} (h : Delimited follows word)
    (hstart : ∀ value, ∃ first rest, word value = first :: rest ∧ first ≠ stop)
    (hfollows : ∀ (values : List α) rest, follows (values.flatMap word ++ stop :: rest)) :
    Delimited (fun _ => True) fun values : List α => values.flatMap word ++ [stop] := by
  intro values others rest rest' _ _ heq
  simp only [List.append_assoc, List.singleton_append] at heq
  induction values generalizing others with
  | nil =>
    cases others with
    | nil => exact ⟨rfl, (List.cons.inj heq).2⟩
    | cons other =>
      obtain ⟨first, tail, hword, hne⟩ := hstart other
      simp only [List.flatMap_nil, List.nil_append, List.flatMap_cons, hword,
        List.cons_append] at heq
      exact absurd (List.cons.inj heq).1.symm hne
  | cons value values ih =>
    cases others with
    | nil =>
      obtain ⟨first, tail, hword, hne⟩ := hstart value
      simp only [List.flatMap_nil, List.nil_append, List.flatMap_cons, hword,
        List.cons_append] at heq
      exact absurd (List.cons.inj heq).1 hne
    | cons _ others =>
      simp only [List.flatMap_cons, List.append_assoc] at heq
      obtain ⟨hvalue, heq⟩ := h (hfollows values rest) (hfollows others rest') heq
      obtain ⟨hvalues, htail⟩ := ih heq
      rw [hvalue, hvalues]
      exact ⟨rfl, htail⟩

theorem flatMap_injective (h : Delimited (fun _ => True) word) (hne : ∀ value, word value ≠ []) :
    Function.Injective fun values : List α => values.flatMap word := by
  intro values others heq
  simp only at heq
  induction values generalizing others with
  | nil =>
    cases others with
    | nil => rfl
    | cons other =>
      simp only [List.flatMap_nil, List.flatMap_cons] at heq
      exact absurd (List.append_eq_nil_iff.mp heq.symm).1 (hne other)
  | cons value _ ih =>
    cases others with
    | nil =>
      simp only [List.flatMap_nil, List.flatMap_cons] at heq
      exact absurd (List.append_eq_nil_iff.mp heq).1 (hne value)
    | cons =>
      simp only [List.flatMap_cons] at heq
      obtain ⟨hvalue, heq⟩ := h trivial trivial heq
      rw [hvalue, ih heq]

end Delimited

theorem append_inj_of_all {p : β → Prop} {first second rest rest' : List β}
    (hfirst : ∀ symbol ∈ first, p symbol) (hsecond : ∀ symbol ∈ second, p symbol)
    (hrest : ∀ symbol ∈ rest.head?, ¬ p symbol) (hrest' : ∀ symbol ∈ rest'.head?, ¬ p symbol)
    (h : first ++ rest = second ++ rest') : first = second ∧ rest = rest' := by
  induction first generalizing second with
  | nil =>
    cases second with
    | nil => exact ⟨rfl, h⟩
    | cons symbol =>
      rw [List.nil_append] at h
      exact absurd (hsecond symbol List.mem_cons_self) (hrest symbol (by simp [h]))
  | cons symbol _ ih =>
    cases second with
    | nil =>
      rw [List.nil_append] at h
      exact absurd (hfirst symbol List.mem_cons_self) (hrest' symbol (by simp [← h]))
    | cons =>
      obtain ⟨hsymbol, h⟩ := List.cons.inj h
      obtain ⟨htail, hrests⟩ := ih
        (fun symbol hsymbol => hfirst symbol (List.mem_cons_of_mem _ hsymbol))
        (fun symbol hsymbol =>
          hsecond symbol (List.mem_cons_of_mem _ hsymbol)) h
      rw [hsymbol, htail]
      exact ⟨rfl, hrests⟩

end Matcher.Foundation
