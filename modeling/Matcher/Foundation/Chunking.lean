import Mathlib.Data.List.Basic

/-!
# Streams handed over in chunks

Rows are added to a pending chunk one at a time.  A full chunk is handed to a
callback, which may change a state of its own and may stop the stream with an
error.  The chunks do not depend on what the callback does, so a stream is the
callback run over the chunks in order, up to its first error.
-/

namespace Matcher.Foundation

universe u v

variable {ρ χ : Type u} {σ ε : Type v} {callback : χ → σ → Option ε × σ}

/-- How a pending chunk takes a row, when it is full, and what follows it. -/
structure Chunker (ρ χ : Type u) where
  add : χ → ρ → χ
  full : χ → Bool
  reset : χ → χ

def runAll (callback : χ → σ → Option ε × σ) : List χ → σ → Option ε × σ
  | [], state => (none, state)
  | chunk :: rest, state =>
    match callback chunk state with
    | (some failure, state) => (some failure, state)
    | (none, state) => runAll callback rest state

theorem runAll_append (callback : χ → σ → Option ε × σ) (first second : List χ) (state : σ) :
    runAll callback (first ++ second) state =
      match runAll callback first state with
      | (some failure, state) => (some failure, state)
      | (none, state) => runAll callback second state := by
  induction first generalizing state with
  | nil => rfl
  | cons chunk _ ih =>
    simp only [List.cons_append, runAll]
    cases callback chunk state with
    | mk failure state' =>
      cases failure with
      | none => exact ih state'
      | some => rfl

theorem runAll_of_accepting (h : ∀ chunk state, (callback chunk state).1 = none) (chunks : List χ)
    (state : σ) : (runAll callback chunks state).1 = none := by
  induction chunks generalizing state with
  | nil => rfl
  | cons chunk _ ih =>
    have hchunk := h chunk state
    simp only [runAll]
    cases hcall : callback chunk state with
    | mk _ state' =>
      rw [hcall] at hchunk
      cases hchunk
      exact ih state'

namespace Chunker

variable (chunker : Chunker ρ χ)

def stream (callback : χ → σ → Option ε × σ) : List ρ → χ → σ → Except ε χ × σ
  | [], pending, state => (.ok pending, state)
  | row :: rest, pending, state =>
    let pending := chunker.add pending row
    if chunker.full pending then
      match callback pending state with
      | (some failure, state) => (.error failure, state)
      | (none, state) => stream callback rest (chunker.reset pending) state
    else stream callback rest pending state

def split : List ρ → χ → List χ × χ
  | [], pending => ([], pending)
  | row :: rest, pending =>
    let pending := chunker.add pending row
    if chunker.full pending then
      let (chunks, last) := split rest (chunker.reset pending)
      (pending :: chunks, last)
    else split rest pending

theorem stream_eq (callback : χ → σ → Option ε × σ) (rows : List ρ) (pending : χ) (state : σ) :
    chunker.stream callback rows pending state =
      match runAll callback (chunker.split rows pending).1 state with
      | (some failure, state) => (.error failure, state)
      | (none, state) => (.ok (chunker.split rows pending).2, state) := by
  induction rows generalizing pending state with
  | nil => rfl
  | cons row _ ih =>
    by_cases hfull : chunker.full (chunker.add pending row)
    · simp only [stream, split, hfull, ↓reduceIte, runAll]
      cases hcall : callback (chunker.add pending row) state with
      | mk failure =>
        cases failure with
        | none => exact ih _ _
        | some => rfl
    · simp only [stream, split, hfull, Bool.false_eq_true, ↓reduceIte]
      exact ih _ _

theorem stream_of_accepting
    (h : ∀ chunk state, (callback chunk state).1 = none) (rows : List ρ) (pending : χ) (state : σ) :
    ∃ last after, chunker.stream callback rows pending state = (.ok last, after) := by
  rw [stream_eq]
  have hrun := runAll_of_accepting h (chunker.split rows pending).1 state
  cases hcalls : runAll callback (chunker.split rows pending).1 state with
  | mk _ after =>
    rw [hcalls] at hrun
    cases hrun
    exact ⟨_, after, rfl⟩

theorem stream_append (callback : χ → σ → Option ε × σ) (first second : List ρ)
    (pending : χ) (state : σ) :
    chunker.stream callback (first ++ second) pending state =
      match chunker.stream callback first pending state with
      | (.error failure, state) => (.error failure, state)
      | (.ok pending, state) => chunker.stream callback second pending state := by
  induction first generalizing pending state with
  | nil => rfl
  | cons row _ ih =>
    by_cases hfull : chunker.full (chunker.add pending row)
    · simp only [List.cons_append, stream, hfull, ↓reduceIte]
      cases callback (chunker.add pending row) state with
      | mk failure =>
        cases failure with
        | none => exact ih _ _
        | some => rfl
    · simp only [List.cons_append, stream, hfull, Bool.false_eq_true, ↓reduceIte]
      exact ih _ _

theorem split_bounded (within filled : χ → Prop) (hopen : ∀ pending row, within pending →
      ¬ chunker.full (chunker.add pending row) →
        within (chunker.add pending row)) (hfull : ∀ pending row, within pending →
      chunker.full (chunker.add pending row) →
        filled (chunker.add pending row) ∧
          within (chunker.reset (chunker.add pending row))) (rows : List ρ) (pending : χ)
    (hpending : within pending) :
    (∀ chunk ∈ (chunker.split rows pending).1, filled chunk) ∧
      within (chunker.split rows pending).2 := by
  induction rows generalizing pending with
  | nil => exact ⟨fun _ h => absurd h List.not_mem_nil, hpending⟩
  | cons row _ ih =>
    by_cases hrow : chunker.full (chunker.add pending row)
    · simp only [split, hrow, ↓reduceIte]
      obtain ⟨hfilled, hreset⟩ := hfull pending row hpending hrow
      obtain ⟨hchunks, hlast⟩ := ih _ hreset
      refine ⟨?_, hlast⟩
      intro chunk hchunk
      rcases List.mem_cons.mp hchunk with rfl | hchunk
      · exact hfilled
      · exact hchunks chunk hchunk
    · simp only [split, hrow, Bool.false_eq_true, ↓reduceIte]
      exact ih _ (hopen pending row hpending hrow)

theorem split_forall (inv : χ → Prop)
    (hadd : ∀ pending row, inv pending → inv (chunker.add pending row))
    (hreset : ∀ pending, inv pending → inv (chunker.reset pending)) (rows : List ρ) (pending : χ)
    (hpending : inv pending) :
    (∀ chunk ∈ (chunker.split rows pending).1, inv chunk) ∧ inv (chunker.split rows pending).2 :=
  chunker.split_bounded inv inv (fun pending row h _ => hadd pending row h)
    (fun pending row h _ => ⟨hadd pending row h, hreset _ (hadd pending row h)⟩) rows pending
    hpending

theorem split_value {α : Type u} (value : χ → α) (change : α → ρ → α)
    (hadd : ∀ pending row, value (chunker.add pending row) = change (value pending) row)
    (hreset : ∀ pending, value (chunker.reset pending) = value pending) (rows : List ρ)
    (pending : χ) : value (chunker.split rows pending).2 = rows.foldl change (value pending) := by
  induction rows generalizing pending with
  | nil => rfl
  | cons row _ ih =>
    by_cases hfull : chunker.full (chunker.add pending row)
    · simp only [split, hfull, ↓reduceIte, List.foldl_cons]
      rw [ih, hreset, hadd]
    · simp only [split, hfull, Bool.false_eq_true, ↓reduceIte, List.foldl_cons]
      rw [ih, hadd]

theorem split_flatMap {α : Type u} (items : χ → List α) (item : ρ → List α)
    (hadd : ∀ pending row, items (chunker.add pending row) = items pending ++ item row)
    (hreset : ∀ pending, items (chunker.reset pending) = []) (rows : List ρ) (pending : χ) :
    (chunker.split rows pending).1.flatMap items ++ items (chunker.split rows pending).2 =
      items pending ++ rows.flatMap item := by
  induction rows generalizing pending with
  | nil => simp [split]
  | cons row _ ih =>
    by_cases hfull : chunker.full (chunker.add pending row)
    · simp only [split, hfull, ↓reduceIte, List.flatMap_cons, List.append_assoc]
      rw [ih, hreset, hadd, List.nil_append, List.append_assoc]
    · simp only [split, hfull, Bool.false_eq_true, ↓reduceIte, List.flatMap_cons]
      rw [ih, hadd, List.append_assoc]

end Chunker

end Matcher.Foundation
